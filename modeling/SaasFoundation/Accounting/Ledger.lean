import Mathlib.Algebra.BigOperators.Group.List.Basic
import Mathlib.Tactic.FieldSimp
import SaasFoundation.Api.Commits

/-!
# Balances and entries

A balance is the sum of its entries, and an idempotency key is booked once.
Both are facts about the log: an adjustment commits as `Applied` or as
`Replayed`, and nothing else writes the two tables.
-/

namespace SaasFoundation

open Relational Transaction Api

variable {runtime : Runtime} {drawn : Prop} {commit : DbCommit}
  {earlier : List DbCommit}

/-- The amounts booked on a balance, in units. -/
def bookedUnits (db : Db) (creditId : Nat) : Int :=
  ((db.entries.rows.filter fun entry => entry.creditId = creditId).map
    fun entry => entry.amount.units).sum

/-- Every balance is the sum of its entries. -/
def Balanced (db : Db) : Prop :=
  ∀ credit ∈ db.credits, credit.balance.units = bookedUnits db credit.id

def NonzeroEntries (db : Db) : Prop :=
  ∀ entry ∈ db.entries, entry.amount.units ≠ 0

theorem sum_toRat (amounts : List Numeric) :
    (amounts.map Numeric.toRat).sum =
      ((amounts.map Numeric.units).sum : ℤ) / 10000 := by
  induction amounts with
  | nil => simp
  | cons amount amounts ih =>
      simp only [List.map_cons, List.sum_cons, ih, Numeric.toRat]
      push_cast
      ring

namespace Applied

variable {body : CreditAdjustmentDto} {actor : Nat} {credit updated : CreditRow}
  {entry : EntryRow}

theorem entries_after (applied : Applied commit body actor credit updated entry) :
    commit.after.entries.rows = commit.before.entries.rows ++ [entry] := by
  rw [after_entries, applied.entries, Table.applyAll_put]
  exact Table.rows_put_of_absent applied.freshId

/-- The balances afterwards: the moved one, and the untouched others. -/
theorem mem_credits (applied : Applied commit body actor credit updated entry)
    {row : CreditRow} :
    row ∈ commit.after.credits ↔
      row = updated ∨ row ∈ commit.before.credits ∧ row.id ≠ updated.id := by
  rcases applied.credits with ⟨_, writes⟩ | ⟨_, absent, _, writes⟩
  · rw [after_credits, writes, Table.applyAll_put, Table.mem_put]
    rfl
  · have two : Table.applyAll [.put credit, .put updated]
        commit.before.credits =
          (commit.before.credits.put credit).put updated := rfl
    rw [after_credits, writes, two, Table.mem_put, Table.mem_put]
    constructor
    · rintro (same | ⟨rfl | ⟨stored, _⟩, different⟩)
      · exact .inl same
      · exact absurd applied.sameId.symm different
      · exact .inr ⟨stored, different⟩
    · rintro (same | ⟨stored, different⟩)
      · exact .inl same
      · refine .inr ⟨.inr ⟨stored, ?_⟩, different⟩
        exact Table.find_eq_none.mp absent row stored

theorem bookedUnits_after
    (applied : Applied commit body actor credit updated entry) (id : Nat) :
    bookedUnits commit.after id = bookedUnits commit.before id +
      if entry.creditId = id then entry.amount.units else 0 := by
  rw [bookedUnits, applied.entries_after, List.filter_append, List.map_append,
    List.sum_append]
  by_cases same : entry.creditId = id
  · simp [same, bookedUnits]
  · simp [same, bookedUnits]

/-- The balance before the increment is the sum of its entries, also when the
row is new. -/
theorem balanced_before
    (applied : Applied commit body actor credit updated entry)
    (sound : Sound commit.before) (balanced : Balanced commit.before) :
    credit.balance.units = bookedUnits commit.before credit.id := by
  rcases applied.credits with ⟨stored, _⟩ | ⟨_, absent, zero, _⟩
  · exact balanced credit stored
  · have none : commit.before.entries.rows.filter
        (fun entry => entry.creditId = credit.id) = [] := by
      rw [List.filter_eq_nil_iff]
      intro old stored same
      have present := sound.entryCredit old stored
      rw [of_decide_eq_true same, absent] at present
      cases present
    rw [bookedUnits, none, zero]
    rfl

theorem balanced_after (applied : Applied commit body actor credit updated entry)
    (sound : Sound commit.before) (balanced : Balanced commit.before) :
    Balanced commit.after := by
  intro row member
  rw [applied.bookedUnits_after]
  rcases applied.mem_credits.mp member with rfl | ⟨stored, different⟩
  · rw [applied.balance, applied.balanced_before sound balanced, applied.sameId,
      if_pos applied.creditId]
  · rw [balanced row stored, if_neg, add_zero]
    rw [applied.creditId, ← applied.sameId]
    exact different.symm

theorem mem_entries (applied : Applied commit body actor credit updated entry)
    {row : EntryRow} :
    row ∈ commit.after.entries ↔ row ∈ commit.before.entries ∨ row = entry := by
  rw [← Table.mem_rows, applied.entries_after, List.mem_append,
    List.mem_singleton]
  rfl

/-- What the request has recorded. -/
theorem records (applied : Applied commit body actor credit updated entry) :
    Records commit.after body actor entry where
  stored := applied.mem_entries.mpr (.inr rfl)
  key := applied.key
  credit := ⟨updated, applied.mem_credits.mpr (.inl rfl),
    applied.sameId.trans applied.creditId.symm,
    applied.sameAccount.trans applied.accountId,
    applied.sameCurrency.trans applied.currencyId⟩
  amount := applied.amount
  reason := applied.reason
  operator := applied.operator

/-- What earlier requests have recorded stays recorded. -/
theorem records_kept (applied : Applied commit body actor credit updated entry)
    {other : CreditAdjustmentDto} {operator : Nat} {old : EntryRow}
    (records : Records commit.before other operator old) :
    Records commit.after other operator old where
  stored := applied.mem_entries.mpr (.inl records.stored)
  key := records.key
  credit := by
    obtain ⟨row, stored, id, account, currency⟩ := records.credit
    by_cases same : row.id = updated.id
    · rcases applied.credits with ⟨member, _⟩ | ⟨_, absent, _⟩
      · have rows : row = credit := by
          apply Table.eq_of_key stored member
          exact same.trans applied.sameId
        subst rows
        exact ⟨updated, applied.mem_credits.mpr (.inl rfl), same.symm.trans id,
          applied.sameAccount.trans account, applied.sameCurrency.trans currency⟩
      · have different := Table.find_eq_none.mp absent row stored
        exact absurd (same.trans applied.sameId) different
    · exact ⟨row, applied.mem_credits.mpr (.inr ⟨stored, same⟩), id, account,
        currency⟩
  amount := records.amount
  reason := records.reason
  operator := records.operator

end Applied

/-- Both tables stay as they are. -/
theorem tables_nothing (credits : commit.writes.credits = [])
    (entries : commit.writes.entries = []) :
    commit.after.credits = commit.before.credits ∧
      commit.after.entries = commit.before.entries := by
  rw [after_credits, after_entries, credits, entries]
  exact ⟨rfl, rfl⟩

/-- A commit books an entry, or leaves both tables alone. -/
theorem booked_or_nothing (effect : Effect runtime drawn commit earlier) :
    (∃ body actor credit updated entry,
      commit.request.core = .adjust body actor ∧
        Applied commit body actor credit updated entry) ∨
    commit.after.credits = commit.before.credits ∧
      commit.after.entries = commit.before.entries := by
  rcases adjust_of_effect effect with
    ⟨body, actor, core, _, replayed | ⟨credit, updated, entry, applied⟩⟩ |
      ⟨credits, entries⟩
  · exact .inr (tables_nothing replayed.credits replayed.entries)
  · exact .inl ⟨body, actor, credit, updated, entry, core, applied⟩
  · exact .inr (tables_nothing credits entries)

theorem balanced_of_effect (effect : Effect runtime drawn commit earlier)
    (sound : Sound commit.before) (balanced : Balanced commit.before) :
    Balanced commit.after := by
  rcases booked_or_nothing effect with
    ⟨_, _, _, _, _, _, applied⟩ | ⟨credits, entries⟩
  · exact applied.balanced_after sound balanced
  · rw [Balanced, credits]
    intro row member
    rw [balanced row member, bookedUnits, bookedUnits, entries]

theorem nonzero_of_effect (effect : Effect runtime drawn commit earlier)
    (nonzero : NonzeroEntries commit.before) : NonzeroEntries commit.after := by
  rcases booked_or_nothing effect with
    ⟨_, _, _, _, _, _, applied⟩ | ⟨_, entries⟩
  · intro row member
    rcases applied.mem_entries.mp member with old | rfl
    · exact nonzero row old
    · exact applied.nonzero
  · rw [NonzeroEntries, entries]
    exact nonzero

theorem toRat_balance {db : Db} (balanced : Balanced db) {credit : CreditRow}
    (member : credit ∈ db.credits) :
    credit.balance.toRat =
      ((db.entries.rows.filter fun entry => entry.creditId = credit.id).map
        fun entry => entry.amount.toRat).sum := by
  have sum := sum_toRat
    ((db.entries.rows.filter fun entry => entry.creditId = credit.id).map
      (·.amount))
  rw [List.map_map, List.map_map] at sum
  calc
    credit.balance.toRat = (bookedUnits db credit.id : ℚ) / 10000 := by
      rw [Numeric.toRat, balanced credit member]
    _ = _ := sum.symm

theorem toRat_ne_zero {amount : Numeric} (nonzero : amount.units ≠ 0) :
    amount.toRat ≠ 0 := by
  simp [Numeric.toRat, nonzero]

/-- A request that has failed is not in the log. -/
theorem failed_not_logged {environment : Environment} {initial : Db}
    {config : DbConfig} (run : Run environment drawn initial config)
    {thread : Thread Db Writes Lock Draw Failure Request Reply}
    (member : thread ∈ config.threads) {body : CreditAdjustmentDto}
    {actor : Nat} {failure : Failure}
    (request : thread.context.request = .adjust body actor)
    (failed : thread.program = .fail failure) :
    ∀ commit ∈ config.world.commits, commit.tid ≠ thread.context.tid := by
  have refused := run.refuses thread member failure failed
  unfold Refuses at refused
  rw [request] at refused
  exact run.numbered.unseen thread member refused.1

/-- The ledger in every reachable state: balances are sums of their entries,
rows are unique, no entry is zero, and adjustments that fail change nothing:
they are not in the log, which accounts for the whole state. -/
theorem ledger_of_reachable (environment : Environment)
    (admits : Request → Bool) (world : DbWorld) (config : DbConfig)
    (begins : Begins world) (balanced : Balanced world.db)
    (nonzero : NonzeroEntries world.db)
    (reachable :
      (system environment admits).Reachable (.idle world) config) :
    (∀ credit ∈ config.world.db.credits,
      credit.balance.toRat =
        ((config.world.db.entries.rows.filter fun entry =>
          entry.creditId = credit.id).map fun entry =>
            entry.amount.toRat).sum) ∧
    (∀ left ∈ config.world.db.credits, ∀ right ∈ config.world.db.credits,
      left.accountId = right.accountId → left.currencyId = right.currencyId →
        left = right) ∧
    (∀ entry ∈ config.world.db.entries, entry.amount.toRat ≠ 0) ∧
    (∀ thread ∈ config.threads, ∀ body actor failure,
      thread.context.request = .adjust body actor →
        thread.program = .fail failure →
          ∀ commit ∈ config.world.commits,
            commit.tid ≠ thread.context.tid) ∧
    Leads world.db config.world.commits config.world.db := by
  have run : Run environment False world.db config :=
    .of_reachable begins False.elim reachable
  have balancedNow := Leads.induction (motive := fun _ db => Balanced db)
    run.leads run.legal balanced fun commit earlier _ balanced effect =>
      balanced_of_effect effect.1 effect.2 balanced
  have nonzeroNow := Leads.induction (motive := fun _ db => NonzeroEntries db)
    run.leads run.legal nonzero fun commit earlier _ nonzero effect =>
      nonzero_of_effect effect.1 nonzero
  exact ⟨fun credit member => toRat_balance balancedNow member,
    run.sound.creditUnique,
    fun entry member => toRat_ne_zero (nonzeroNow entry member),
    fun thread member body actor failure request failed =>
      failed_not_logged run member request failed,
    run.leads⟩

namespace Sample

def amount : Amount := ⟨"1.5", by decide⟩

/-- Administrator 1 gives account 2 one and a half credits, key 5. -/
def credit : Request :=
  .adjust ⟨2, 1, amount, 5, "r"⟩ 1

end Sample

theorem ledger_of_reachable_credited :
    ∃ config : DbConfig,
      config.world.db.credits.rows.map (·.balance.units) = [15000] ∧
      ∀ credit ∈ config.world.db.credits,
        credit.balance.toRat =
          ((config.world.db.entries.rows.filter fun entry =>
            entry.creditId = credit.id).map fun entry =>
              entry.amount.toRat).sum :=
  ⟨Sample.after (fun _ => true) (Sample.serve Sample.credit 9 12), by decide,
    (ledger_of_reachable _ _ _ _ Sample.begins
      (fun _ member => absurd member (Table.not_mem_empty _))
      (fun _ member => absurd member (Table.not_mem_empty _))
      (Sample.reachable _ _)).1⟩

end SaasFoundation
