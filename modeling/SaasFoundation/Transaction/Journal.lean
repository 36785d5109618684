import SaasFoundation.Relational.Table
import SaasFoundation.Transaction.Only

/-!
# Append-only tables

A journal is a table that transactions only add rows to, under keys they have
drawn from its sequence.  `Publishes` follows what a program has drawn and what
it has pending, and asks every commit for a condition on both; it assumes
nothing about what the statements read.  When every program publishes legal
writes and appends to the journal, the table is what the log of commits
appended, in commit order.
-/

namespace Transaction

open Relational

variable {σ ω ℓ δ ε ρ τ ϑ α β : Type}

namespace Program

variable [WriteSet ω σ] {legal legal' : List (δ × Nat) → ω → Prop}
  {owned : List (δ × Nat)} {writes : ω}

/-- Every commit of the program is `legal`; where it returns, `post` holds of
the value and of what is drawn and pending then. -/
def Publishes (legal : List (δ × Nat) → ω → Prop) :
    Program σ ω ℓ δ ε α → (α → List (δ × Nat) → ω → Prop) →
      List (δ × Nat) → ω → Prop
  | .done value, post, owned, writes => post value owned writes
  | .fail _, _, _, _ => True
  | .start next, post, owned, writes => Publishes legal next post owned writes
  | .commit next, post, owned, writes =>
      legal owned writes ∧ Publishes legal next post [] ∅
  | .fresh source next, post, owned, writes => ∀ value,
      Publishes legal (next value) post ((source, value) :: owned) writes
  | .perform statement next, post, owned, writes => ∀ now state,
      match statement.run now state with
      | .ok (value, written) =>
          Publishes legal (next value) post owned (writes ++ written)
      | .error _ => True

@[simp] theorem publishes_pure {value : α}
    {post : α → List (δ × Nat) → ω → Prop} :
    (pure value : Program σ ω ℓ δ ε α).Publishes legal post owned writes ↔
      post value owned writes :=
  Iff.rfl

@[simp] theorem publishes_fail {error : ε}
    {post : α → List (δ × Nat) → ω → Prop} :
    (.fail error : Program σ ω ℓ δ ε α).Publishes legal post owned writes ↔
      True :=
  Iff.rfl

@[simp] theorem publishes_draw {source : δ}
    {post : Nat → List (δ × Nat) → ω → Prop} :
    (draw source : Program σ ω ℓ δ ε Nat).Publishes legal post owned writes ↔
      ∀ value, post value ((source, value) :: owned) writes :=
  Iff.rfl

theorem publishes_run {statement : Statement σ ω ℓ ε α}
    {post : α → List (δ × Nat) → ω → Prop}
    (step : ∀ now state value written,
      statement.run now state = .ok (value, written) →
      post value owned (writes ++ written)) :
    (run statement : Program σ ω ℓ δ ε α).Publishes legal post owned
      writes := by
  intro now state
  cases ran : statement.run now state with
  | error error => trivial
  | ok outcome => exact step now state outcome.1 outcome.2 ran

theorem publishes_bind {program : Program σ ω ℓ δ ε α}
    {rest : α → Program σ ω ℓ δ ε β} {post : β → List (δ × Nat) → ω → Prop} :
    (program >>= rest).Publishes legal post owned writes ↔
      program.Publishes legal (fun value => (rest value).Publishes legal post)
        owned writes := by
  rw [bind_eq]
  induction program generalizing owned writes with
  | done | fail => rfl
  | start next ih => exact ih
  | commit next ih => exact and_congr_right fun _ => ih
  | fresh source next ih => exact forall_congr' fun value => ih value
  | perform statement next ih =>
      apply forall_congr'
      intro now
      apply forall_congr'
      intro state
      dsimp only
      cases statement.run now state with
      | error error => rfl
      | ok outcome => exact ih outcome.1

/-- Consequence rule. -/
theorem Publishes.mono {program : Program σ ω ℓ δ ε α}
    {post post' : α → List (δ × Nat) → ω → Prop}
    (publishes : program.Publishes legal post owned writes)
    (weaker : ∀ value owned writes, post value owned writes →
      post' value owned writes)
    (laxer : ∀ owned writes, legal owned writes → legal' owned writes) :
    program.Publishes legal' post' owned writes := by
  induction program generalizing owned writes with
  | done value => exact weaker _ _ _ publishes
  | fail error => trivial
  | start next ih => exact ih publishes
  | commit next ih => exact ⟨laxer _ _ publishes.1, ih publishes.2⟩
  | fresh source next ih => exact fun value => ih value (publishes value)
  | perform statement next ih =>
      intro now state
      have step := publishes now state
      revert step
      cases statement.run now state with
      | error error => exact id
      | ok outcome => exact fun step => ih outcome.1 step

/-- Sequencing: the rest may use what holds where the first part returns. -/
theorem Publishes.bind {program : Program σ ω ℓ δ ε α}
    {rest : α → Program σ ω ℓ δ ε β} {middle : α → List (δ × Nat) → ω → Prop}
    {post : β → List (δ × Nat) → ω → Prop}
    (first : program.Publishes legal middle owned writes)
    (next : ∀ value owned writes, middle value owned writes →
      (rest value).Publishes legal post owned writes) :
    (program >>= rest).Publishes legal post owned writes :=
  publishes_bind.mpr (first.mono next fun _ _ => id)

theorem Publishes.mapError {program : Program σ ω ℓ δ ε α}
    {post : α → List (δ × Nat) → ω → Prop} {rethrow : ε → ε}
    (publishes : program.Publishes legal post owned writes) :
    (program.mapError rethrow).Publishes legal post owned writes := by
  induction program generalizing owned writes with
  | done | fail => exact publishes
  | start next ih => exact ih publishes
  | commit next ih => exact ⟨publishes.1, ih publishes.2⟩
  | fresh source next ih => exact fun value => ih value (publishes value)
  | perform statement next ih =>
      intro now state
      have step := publishes now state
      revert step
      dsimp only
      cases statement.run now state with
      | error error => exact id
      | ok outcome => exact fun step => ih outcome.1 step

/-- A transaction is asked once, for what its body leaves. -/
theorem publishes_transaction {program : Program σ ω ℓ δ ε α}
    {post : α → List (δ × Nat) → ω → Prop} :
    program.transaction.Publishes legal post owned writes ↔
      program.Publishes legal (fun value owned writes =>
        legal owned writes ∧ post value [] ∅) owned writes :=
  publishes_bind

/-- Writes that keep `good` are published as they are asked for. -/
theorem Writes.publishes {program : Program σ ω ℓ δ ε α} {allowed : ω → Prop}
    {result : α → Prop} {good : ω → Prop}
    (asks : program.Writes (fun _ => True) allowed result) (pending : good writes)
    (grows : ∀ first second, good first → allowed second →
      good (first ++ second)) :
    program.Publishes legal (fun value _ written => result value ∧ good written)
      owned writes := by
  induction program generalizing owned writes with
  | done value => exact ⟨asks, pending⟩
  | fail error => trivial
  | start | commit => exact asks.elim
  | fresh source next ih => exact fun value => ih value (asks value) pending
  | perform statement next ih =>
      intro now state
      have step := asks now state trivial
      revert step
      cases statement.run now state with
      | error error => exact fun _ => trivial
      | ok outcome =>
          exact fun step => ih outcome.1 step.2 (grows _ _ pending step.1)

/-- The rest starts from what the first part returns and keeps. -/
theorem Writes.publishes_bind {program : Program σ ω ℓ δ ε α}
    {rest : α → Program σ ω ℓ δ ε β} {post : β → List (δ × Nat) → ω → Prop}
    {allowed : ω → Prop} {result : α → Prop} {good : ω → Prop}
    (asks : program.Writes (fun _ => True) allowed result) (pending : good writes)
    (grows : ∀ first second, good first → allowed second →
      good (first ++ second))
    (next : ∀ value later written, result value → good written →
      (rest value).Publishes legal post later written) :
    (program >>= rest).Publishes legal post owned writes := by
  apply (asks.publishes pending grows).bind
  exact fun value later written returned =>
    next value later written returned.1 returned.2

/-- A quiet program leaves what is pending. -/
theorem Quiet.publishes_bind {program : Program σ ω ℓ δ ε α}
    {rest : α → Program σ ω ℓ δ ε β} {result : α → Prop}
    {post : β → List (δ × Nat) → ω → Prop} (quiet : program.Quiet result)
    (next : ∀ value later, result value →
      (rest value).Publishes legal post later writes) :
    (program >>= rest).Publishes legal post owned writes := by
  rw [bind_eq]
  induction program generalizing owned with
  | done value => exact next value owned quiet
  | fail error => trivial
  | start | commit => exact quiet.elim
  | fresh source program ih => exact fun value => ih value (quiet value)
  | perform statement program ih =>
      intro now state
      have step := quiet now state
      revert step
      dsimp only
      cases statement.run now state with
      | error error => exact fun _ => trivial
      | ok outcome =>
          intro step
          have same : writes ++ outcome.2 = writes := by
            rw [step.1]
            exact WriteSet.append_empty (σ := σ) writes
          change ((program outcome.1).bind rest).Publishes legal post owned
            (writes ++ outcome.2)
          rw [same]
          exact ih _ step.2.2

/-- A program of allowed writes publishes only what they keep. -/
theorem Only.publishes {program : Program σ ω ℓ δ ε α} {allowed good : ω → Prop}
    (only : program.Only (fun _ => True) allowed) (pending : good writes)
    (clean : good ∅) (grows : ∀ first second, good first → allowed second →
      good (first ++ second)) (fits : ∀ owned writes, good writes →
      legal owned writes) :
    program.Publishes legal (fun _ _ _ => True) owned writes := by
  induction program generalizing owned writes with
  | done | fail => trivial
  | start next ih => exact ih only pending
  | commit next ih => exact ⟨fits _ _ pending, ih only clean⟩
  | fresh source next ih => exact fun value => ih value (only value) pending
  | perform statement next ih =>
      intro now state
      have step := only now state trivial
      revert step
      cases statement.run now state with
      | error error => exact fun _ => trivial
      | ok outcome =>
          exact fun step => ih outcome.1 step.2 (grows _ _ pending step.1)

end Program

/-- A table whose rows are stored under keys drawn from a sequence. -/
structure Journal (σ ω δ ϑ : Type) [WriteSet ω σ] [Keyed ϑ Nat] where
  table : σ → Table ϑ
  changes : ω → List (Change ϑ Nat)
  sequence : δ
  table_apply : ∀ writes state,
    table (WriteSet.apply writes state) =
      (table state).applyAll (changes writes)

/-- The rows that changes store. -/
def storedRows {κ : Type} : List (Change ϑ κ) → List ϑ
  | [] => []
  | .put row :: changes => row :: storedRows changes
  | .drop _ :: changes => storedRows changes

@[simp] theorem storedRows_puts {κ : Type} (rows : List ϑ) :
    storedRows (rows.map .put : List (Change ϑ κ)) = rows := by
  induction rows with
  | nil => rfl
  | cons row rows ih => simp [storedRows, ih]

namespace Journal

variable [WriteSet ω σ] [Keyed ϑ Nat]

section

variable (journal : Journal σ ω δ ϑ)

/-- The writes add rows under drawn keys, and do nothing else to the table. -/
def Appends (owned : List (δ × Nat)) (writes : ω) : Prop :=
  ∃ rows : List ϑ, journal.changes writes = rows.map .put ∧
    (rows.map key).Nodup ∧ ∀ row ∈ rows, (journal.sequence, key row) ∈ owned

variable {journal} in
/-- One row under a drawn key. -/
theorem Appends.row {owned : List (δ × Nat)} {writes : ω} {row : ϑ}
    (drawn : (journal.sequence, key row) ∈ owned)
    (same : journal.changes writes = [.put row]) :
    journal.Appends owned writes := by
  refine ⟨[row], same, List.nodup_singleton _, fun other listed => ?_⟩
  obtain rfl := List.mem_singleton.mp listed
  exact drawn

variable {journal} in
theorem Appends.nothing {owned : List (δ × Nat)} {writes : ω}
    (same : journal.changes writes = []) : journal.Appends owned writes :=
  ⟨[], same, List.nodup_nil, fun _ none => absurd none List.not_mem_nil⟩

/-- The rows a commit has added. -/
def added (commit : Commit σ ω ρ) : List ϑ :=
  storedRows (journal.changes commit.writes)

/-- Every commit was legal, and the table is what they added. -/
structure Kept (legal : ρ → ω → Prop) (initial : List ϑ)
    (world : World σ ω δ ρ) : Prop where
  legal : ∀ commit ∈ world.commits, legal commit.request commit.writes
  rows : (journal.table world.db).rows =
    initial ++ world.commits.reverse.flatMap journal.added
  drawn : ∀ row ∈ journal.table world.db,
    (journal.sequence, key row) ∈ world.drawn

/-- Draws are remembered, and a drawn key stays unused. -/
structure Keeps (hold : Hold ℓ δ) (before after : World σ ω δ ρ) : Prop where
  drawn : ∀ value ∈ before.drawn, value ∈ after.drawn
  unused : ∀ value, hold = .value journal.sequence value →
    (∀ row ∈ journal.table before.db, key row ≠ value) →
    ∀ row ∈ journal.table after.db, key row ≠ value

/-- The discipline of the journal; nothing is said of answers. -/
def discipline (legal : ρ → ω → Prop) (initial : List ϑ) :
    Discipline σ ω ℓ δ ε ρ τ where
  Inv := journal.Kept legal initial
  Keeps := journal.Keeps
  Returns _ _ _ := True
  Fails _ _ _ := True
  keeps_trans left right :=
    ⟨fun value listed => right.drawn value (left.drawn value listed),
      fun value same fresh =>
        right.unused value same (left.unused value same fresh)⟩
  inv_silent silent kept := by
    refine ⟨silent.commits ▸ kept.legal, ?_, fun row member => ?_⟩
    · rw [silent.db, silent.commits]
      exact kept.rows
    · rw [silent.db] at member
      exact silent.drawn _ (kept.drawn row member)
  keeps_silent silent _ :=
    ⟨silent.drawn, fun _ _ fresh => silent.db ▸ fresh⟩
  returns_stable _ _ _ _ := trivial
  fails_stable _ _ _ _ := trivial

end

variable {journal : Journal σ ω δ ϑ} {legal : ρ → ω → Prop}
  {initial : List ϑ} {context : Context ω ℓ δ ρ} {world : World σ ω δ ρ}

/-- Nobody has used the keys that a request has drawn. -/
def Unused (journal : Journal σ ω δ ϑ) (context : Context ω ℓ δ ρ)
    (world : World σ ω δ ρ) : Prop :=
  ∀ value, (journal.sequence, value) ∈ context.owned →
    ∀ row ∈ journal.table world.db, key row ≠ value

/-- Rows with new keys go to the end. -/
theorem rows_applyAll_puts {rows : List ϑ} {table : Table ϑ}
    (distinct : (rows.map key).Nodup)
    (absent : ∀ row ∈ rows, ∀ old ∈ table, key old ≠ (key row : Nat)) :
    (table.applyAll (rows.map .put)).rows = table.rows ++ rows := by
  induction rows generalizing table with
  | nil => simp
  | cons row rows ih =>
      rw [List.map_cons, List.nodup_cons] at distinct
      rw [List.map_cons, Table.applyAll_cons]
      have here : (table.put row).rows = table.rows ++ [row] :=
        Table.rows_put_of_absent
          (Table.find_eq_none.mpr (absent row List.mem_cons_self))
      have later : ∀ other ∈ rows, ∀ old ∈ table.put row,
          key old ≠ (key other : Nat) := by
        intro other listed old member same
        rcases Table.mem_put.mp member with rfl | ⟨stored, _⟩
        · exact distinct.1 (List.mem_map.mpr ⟨other, listed, same.symm⟩)
        · exact absent other (List.mem_cons_of_mem _ listed) old stored same
      calc ((table.put row).applyAll (rows.map .put)).rows
          = (table.put row).rows ++ rows := ih distinct.2 later
        _ = table.rows ++ row :: rows := by simp [here]

theorem rows_commit (unused : journal.Unused context world)
    (appends : journal.Appends context.owned context.writes) :
    (journal.table (world.commit context).db).rows =
      (journal.table world.db).rows ++ journal.added (world.record context) := by
  obtain ⟨rows, changes, distinct, owned⟩ := appends
  have absent : ∀ row ∈ rows, ∀ old ∈ journal.table world.db,
      key old ≠ (key row : Nat) :=
    fun row listed => unused (key row) (owned row listed)
  calc (journal.table (world.commit context).db).rows
      = ((journal.table world.db).applyAll (rows.map .put)).rows := by
        rw [← changes, ← journal.table_apply]
        rfl
    _ = (journal.table world.db).rows ++ rows :=
        rows_applyAll_puts distinct absent
    _ = _ := by
        simp [added, World.record, changes]

/-- A legal commit that appends under unused keys keeps the journal. -/
theorem Kept.commit (kept : journal.Kept legal initial world)
    (unused : journal.Unused context world)
    (appends : journal.Appends context.owned context.writes)
    (here : legal context.request context.writes)
    (drawn : ∀ value ∈ context.owned, value ∈ world.drawn) :
    journal.Kept legal initial (world.commit context) where
  legal := List.forall_mem_cons.mpr ⟨here, kept.legal⟩
  rows := by
    rw [rows_commit unused appends, kept.rows]
    simp [World.commit, List.append_assoc]
  drawn row member := by
    rw [← Table.mem_rows, rows_commit unused appends,
      List.mem_append] at member
    rcases member with old | new
    · exact kept.drawn row (Table.mem_rows.mp old)
    · obtain ⟨rows, changes, _, owned⟩ := appends
      rw [added, World.record, changes, storedRows_puts] at new
      exact drawn _ (owned row new)

/-- What a request must publish. -/
def Respects (journal : Journal σ ω δ ϑ) (legal : ω → Prop)
    (program : Program σ ω ℓ δ ε α) : Prop :=
  program.Publishes
    (fun owned writes => legal writes ∧ journal.Appends owned writes)
    (fun _ _ _ => True) [] ∅

/-- The request has drawn and pending what its program says, and what it has
drawn is unused. -/
structure Stands (journal : Journal σ ω δ ϑ) (legal : ρ → ω → Prop)
    (initial : List ϑ) (owned : List (δ × Nat)) (writes : ω)
    (context : Context ω ℓ δ ρ) (world : World σ ω δ ρ) : Prop where
  kept : journal.Kept legal initial world
  unused : journal.Unused context world
  drawn : ∀ value ∈ context.owned, value ∈ world.drawn
  owned : context.owned = owned
  writes : context.writes = writes

variable {owned : List (δ × Nat)} {writes : ω} {now : World σ ω δ ρ}

theorem Stands.own {source : δ} {value : Nat}
    (stands : journal.Stands legal initial owned writes context world)
    (fresh : (source, value) ∉ world.drawn) :
    journal.Stands legal initial ((source, value) :: owned) writes
      (context.own source value)
      { world with drawn := (source, value) :: world.drawn } where
  kept :=
    ⟨stands.kept.legal, stands.kept.rows, fun row member =>
      List.mem_cons_of_mem _ (stands.kept.drawn row member)⟩
  unused other listed row member same := by
    rcases List.mem_cons.mp listed with new | old
    · cases new
      exact fresh (same ▸ stands.kept.drawn row member)
    · exact stands.unused other old row member same
  drawn other listed := by
    rcases List.mem_cons.mp listed with rfl | old
    · exact List.mem_cons_self
    · exact List.mem_cons_of_mem _ (stands.drawn other old)
  owned := congrArg _ stands.owned
  writes := stands.writes

theorem Stands.rely
    (stands : journal.Stands legal initial owned writes context world)
    (rely : (journal.discipline legal initial :
      Discipline σ ω ℓ δ ε ρ τ).Rely context world now) :
    journal.Stands legal initial owned writes context now where
  kept := rely.inv
  unused value listed :=
    (rely.value listed).unused value rfl (stands.unused value listed)
  drawn value listed := rely.always.drawn value (stands.drawn value listed)
  owned := stands.owned
  writes := stands.writes

/-- The step that publishes. -/
theorem Stands.commit
    (stands : journal.Stands legal initial owned writes context world)
    (here : legal context.request writes)
    (appends : journal.Appends owned writes) :
    (journal.discipline legal initial :
      Discipline σ ω ℓ δ ε ρ τ).Guarantee context world
        (world.commit context) ∧
      journal.Stands legal initial [] ∅ context.release
        (world.commit context) := by
  obtain ⟨kept, unused, drawn, rfl, rfl⟩ := stands
  have after := kept.commit unused appends here drawn
  refine ⟨⟨after, fun hold leaves => ⟨fun _ => id, ?_⟩⟩,
    ⟨after, fun _ none => absurd none List.not_mem_nil,
      fun _ none => absurd none List.not_mem_nil, rfl, rfl⟩⟩
  rintro value rfl fresh row member used
  rw [← Table.mem_rows, rows_commit unused appends, List.mem_append] at member
  rcases member with old | new
  · exact fresh row (Table.mem_rows.mp old) used
  · obtain ⟨rows, changes, _, owned⟩ := appends
    rw [added, World.record, changes, storedRows_puts] at new
    exact leaves (used ▸ owned row new)

/-- A program that publishes legal writes follows the discipline. -/
theorem wp_of_publishes {mayDraw : δ → Nat → Bool}
    {program : Program σ ω ℓ δ ε α} {request : ρ}
    (publishes : program.Publishes
      (fun owned writes => legal request writes ∧ journal.Appends owned writes)
      (fun _ _ _ => True) owned writes)
    (stands : journal.Stands legal initial owned writes context world)
    (serves : context.request = request) :
    (journal.discipline legal initial : Discipline σ ω ℓ δ ε ρ τ).wp mayDraw
      program (fun _ _ _ => True) (fun _ _ _ => True) context world := by
  induction program generalizing owned writes context world with
  | done | fail => trivial
  | start next ih =>
      intro now rely
      have here := stands.rely rely
      exact ih publishes
        ⟨here.kept, here.unused, here.drawn, here.owned, here.writes⟩ serves
  | commit next ih =>
      intro now rely
      obtain ⟨⟨here, appends⟩, rest⟩ := publishes
      have committed := (stands.rely rely).commit (ε := ε) (τ := τ)
        (serves ▸ here) appends
      exact ⟨committed.1, ih rest committed.2 serves⟩
  | fresh source next ih =>
      intro now rely value _ fresh
      exact ih value (publishes value) ((stands.rely rely).own fresh) serves
  | perform statement next ih =>
      intro now rely
      have here := stands.rely rely
      have step := publishes context.now (now.view context)
      revert step
      dsimp only
      cases statement.run context.now (now.view context) with
      | error error => exact fun _ => trivial
      | ok outcome =>
          intro step
          refine ih outcome.1 step ?_ serves
          exact ⟨here.kept, here.unused, here.drawn, here.owned,
            congrArg (· ++ outcome.2) here.writes⟩

/-- When all requests respect the journal, its rows are what the commits of
the log appended, in their order. -/
theorem kept_of_reachable [DecidableEq ℓ] [DecidableEq δ]
    {system : System σ ω ℓ δ ε ρ τ}
    (respects : ∀ state request, system.mayStart state request = true →
      journal.Respects (legal request) (system.program request))
    {world : World σ ω δ ρ} (unlogged : world.commits = [])
    (drawn : ∀ row ∈ journal.table world.db,
      (journal.sequence, key row) ∈ world.drawn)
    {config : Config σ ω ℓ δ ε ρ τ}
    (reachable : system.Reachable (.idle world) config) :
    journal.Kept legal (journal.table world.db).rows config.world := by
  have begins : journal.Kept legal (journal.table world.db).rows world := by
    refine ⟨?_, ?_, drawn⟩
    · rw [unlogged]
      exact fun _ none => absurd none List.not_mem_nil
    · rw [unlogged]
      simp
  have verifies : (journal.discipline legal (journal.table world.db).rows :
      Discipline σ ω ℓ δ ε ρ τ).Verifies system := by
    intro request now tid clock kept starts
    refine wp_of_publishes (respects now.db request starts) ?_ rfl
    exact ⟨kept, fun _ none => absurd none List.not_mem_nil,
      fun _ none => absurd none List.not_mem_nil, rfl, rfl⟩
  exact (Discipline.holds_of_reachable verifies begins reachable).inv

end Journal

end Transaction
