import SaasFoundation.Api.Rules

/-!
# `AccountCreditsService.adjust` follows the discipline

The transaction holds the key of its balance row when it creates one, and the
idempotency key when it claims one.  `Origin` tells the two ways a balance row
is found apart; everything later in the transaction is argued from it.
-/

namespace SaasFoundation

open Relational Transaction Discipline Api

namespace AccountCreditsService

variable {environment : Environment} {drawn : Prop} {α β : Type}
  {post : α → DbContext → DbWorld → Prop}
  {failed : Failure → DbContext → DbWorld → Prop} {context : DbContext}
  {world : DbWorld} {body : CreditAdjustmentDto} {actor : Nat}

theorem creditOf_eq_some {db : Db} {accountId currencyId : Nat}
    {row : CreditRow} (found : creditOf db accountId currencyId = some row) :
    row ∈ db.credits ∧ row.accountId = accountId ∧
      row.currencyId = currencyId := by
  have holds := List.find?_some found
  simp only [Bool.decide_and, Bool.and_eq_true, decide_eq_true_eq] at holds
  exact ⟨List.mem_of_find?_eq_some found, holds⟩

theorem creditOf_eq_none {db : Db} {accountId currencyId : Nat} :
    creditOf db accountId currencyId = none ↔ ∀ row ∈ db.credits,
      ¬(row.accountId = accountId ∧ row.currencyId = currencyId) := by
  simp only [creditOf, List.find?_eq_none, decide_eq_true_eq]
  rfl

theorem entryOf_eq_some {db : Db} {key : Nat} {row : EntryRow}
    (found : entryOf db key = some row) :
    row ∈ db.entries ∧ row.idempotencyKey = key := by
  have holds := List.find?_some found
  exact ⟨List.mem_of_find?_eq_some found, by simpa using holds⟩

theorem entryOf_eq_none {db : Db} {key : Nat} :
    entryOf db key = none ↔ ∀ row ∈ db.entries, row.idempotencyKey ≠ key := by
  simp only [entryOf, List.find?_eq_none, decide_eq_true_eq]
  rfl

/-- A database error of `entryRow` shows that the body cannot be stored. -/
theorem unstorable_of_entryRow {id creditId now : Nat} {failure : Failure}
    (nonzero : body.amount.isZeroText = false)
    (rejected : entryRow id creditId actor now body = .error failure) :
    Unstorable body := by
  unfold entryRow at rejected
  split at rejected
  · rename_i zeroByte
    exact .inr (.inr (.inr (.inl zeroByte)))
  · obtain ⟨amount, fits⟩ := body.amount.fits
    rw [fits] at rejected
    dsimp only at rejected
    split at rejected
    · rename_i long
      exact .inr (.inr (.inr (.inr long)))
    · split at rejected
      · rename_i zero
        rw [Numeric.ofUnits_eq_some.mp fits] at zero
        rw [body.amount.isZeroText_of_units zero] at nonzero
        cases nonzero
      · cases rejected

/-- The entry a body is stored as. -/
structure EntryFor (body : CreditAdjustmentDto) (actor creditId id : Nat)
    (row : EntryRow) : Prop where
  id : row.id = id
  creditId : row.creditId = creditId
  amount : row.amount.units = body.amount.toUnits
  nonzero : row.amount.units ≠ 0
  key : row.idempotencyKey = body.idempotencyKey
  reason : row.reason = body.reason
  operator : row.operatorId = actor
  text : body.reason.toList.contains '\x00' = false
  short : body.reason.length ≤ 300

theorem entryFor_of_entryRow {id creditId now : Nat} {row : EntryRow}
    (stored : entryRow id creditId actor now body = .ok row) :
    EntryFor body actor creditId id row := by
  unfold entryRow at stored
  split at stored
  · cases stored
  · rename_i text
    split at stored
    · cases stored
    · rename_i amount fits
      split at stored
      · cases stored
      · rename_i short
        split at stored
        · cases stored
        · rename_i nonzero
          cases stored
          exact ⟨rfl, rfl, Numeric.ofUnits_eq_some.mp fits, nonzero, rfl, rfl,
            rfl, by simpa using text, Nat.le_of_not_lt short⟩

/-- Both identifiers of the body fit their columns. -/
def FitsInteger (body : CreditAdjustmentDto) : Prop :=
  fitsInteger body.accountId = true ∧
    fitsInteger body.currencyId = true

theorem EntryFor.storable {creditId id : Nat} {row : EntryRow}
    (recorded : EntryFor body actor creditId id row)
    (nonzero : body.amount.isZeroText = false) (fits : FitsInteger body) :
    ¬Unstorable body := by
  rintro (zero | account | currency | text | long)
  · exact Bool.false_ne_true (nonzero.symm.trans zero)
  · exact Bool.false_ne_true (account.symm.trans fits.1)
  · exact Bool.false_ne_true (currency.symm.trans fits.2)
  · exact Bool.false_ne_true (recorded.text.symm.trans text)
  · exact Nat.not_lt_of_le recorded.short long

/-- `found` is a committed row, `new` one this transaction has inserted. -/
inductive Origin (context : DbContext) (world : DbWorld) (credit : CreditRow) :
    Prop where
  | found (writes : context.writes.credits = []) (row : CreditRow)
      (stored : row ∈ world.db.credits) (id : row.id = credit.id)
      (account : row.accountId = credit.accountId)
      (currency : row.currencyId = credit.currencyId)
  | new (writes : context.writes.credits = [.put credit])
      (absent : world.db.credits.find credit.id = none)
      (owned : (Draw.creditId, credit.id) ∈ context.owned)
      (recorded : (Draw.creditId, credit.id) ∈ world.drawn)
      (locked : (Lock.creditIdentity credit.accountId credit.currencyId,
        LockMode.update) ∈ context.locks)
      (unused : ∀ row ∈ world.db.credits, ¬(row.accountId = credit.accountId ∧
        row.currencyId = credit.currencyId))
      (balance : credit.balance = .zero)
      (user : (world.db.users.find credit.accountId).isSome)
      (known : (world.db.currencies.find credit.currencyId).isSome)

namespace Origin

variable {later : DbWorld} {final : DbContext} {credit : CreditRow}

theorem kept (origin : Origin context world credit)
    (keeps : ∀ hold, context.Has hold → Keeps environment world later hold) :
    Origin context later credit := by
  have always : Kept environment world later := keeps .always trivial
  cases origin with
  | found writes row stored id account currency =>
      obtain ⟨same, member, sameId, sameAccount, sameCurrency⟩ :=
        always.credits row stored
      exact .found writes same member (sameId.trans id)
        (sameAccount.trans account) (sameCurrency.trans currency)
  | new writes absent owned recorded locked unused balance user known =>
      exact .new writes (keeps (.value .creditId credit.id) owned absent) owned
        (always.drawn _ recorded) locked
        (keeps (.lock (.creditIdentity _ _) .update) locked unused) balance
        (always.users _ user) (always.currencies ▸ known)

theorem grow (origin : Origin context world credit)
    (grows : context.Grows final)
    (writes : final.writes.credits = context.writes.credits) :
    Origin final world credit := by
  cases origin with
  | found same row stored id account currency =>
      exact .found (writes.trans same) row stored id account currency
  | new same absent owned recorded locked unused balance user known =>
      exact .new (writes.trans same) absent (grows.owned _ owned) recorded
        (grows.locks _ locked) unused balance user known

/-- The row is visible to the transaction. -/
theorem visible (origin : Origin context world credit) :
    ∃ row, (world.view context).credits.find credit.id = some row ∧
      row.accountId = credit.accountId ∧ row.currencyId = credit.currencyId ∧
      (context.writes.credits = [] ∧ row ∈ world.db.credits ∨
        context.writes.credits = [.put credit] ∧ row = credit) := by
  cases origin with
  | found writes row stored id account currency =>
      refine ⟨row, ?_, account, currency, .inl ⟨writes, stored⟩⟩
      simp only [World.view, Db.apply_credits, writes, Table.applyAll_nil]
      exact id ▸ Table.find_key stored
  | new writes absent owned recorded locked unused balance user known =>
      refine ⟨credit, ?_, rfl, rfl, .inr ⟨writes, rfl⟩⟩
      simp [World.view, writes, Table.find_put]

/-- A committed entry of this balance is one of the row the request names. -/
theorem entry_of_records (origin : Origin context world credit)
    (sound : Sound world.db) (account : credit.accountId = body.accountId)
    (currency : credit.currencyId = body.currencyId) {entry : EntryRow}
    (records : Records world.db body actor entry) :
    sameEntry credit.id actor body entry := by
  obtain ⟨owner, stored, id, ownerAccount, ownerCurrency⟩ := records.credit
  cases origin with
  | found _ row rowStored rowId rowAccount rowCurrency =>
      have rows : row = owner :=
        sound.creditUnique row rowStored owner stored
          ((rowAccount.trans account).trans ownerAccount.symm)
          ((rowCurrency.trans currency).trans ownerCurrency.symm)
      have same : entry.creditId = credit.id := by
        rw [← id, ← rows, rowId]
      exact ⟨same, records.amount, records.key, records.reason,
        records.operator⟩
  | new _ _ _ _ _ unused =>
      exact absurd ⟨ownerAccount.trans account.symm,
        ownerCurrency.trans currency.symm⟩ (unused owner stored)

/-- A new balance has no committed entry. -/
theorem records_of_entry (origin : Origin context world credit)
    (sound : Sound world.db) (account : credit.accountId = body.accountId)
    (currency : credit.currencyId = body.currencyId) {entry : EntryRow}
    (stored : entry ∈ world.db.entries)
    (same : sameEntry credit.id actor body entry) :
    context.writes.credits = [] ∧ Records world.db body actor entry := by
  obtain ⟨creditId, amount, key, reason, operator⟩ := same
  cases origin with
  | found writes row rowStored rowId rowAccount rowCurrency =>
      exact ⟨writes, stored, key, ⟨row, rowStored, rowId.trans creditId.symm,
        rowAccount.trans account, rowCurrency.trans currency⟩, amount, reason,
        operator⟩
  | new _ absent =>
      have present := sound.entryCredit entry stored
      rw [creditId, absent] at present
      cases present

/-- Moving the balance is covered: the row before the increment is committed
and locked, or it is the one just made. -/
theorem covered {final : DbContext} {row updated : CreditRow}
    (origin : Origin context world credit) (grows : context.Grows final)
    (locked : (Lock.credit credit.id, LockMode.update) ∈ final.locks)
    (source : context.writes.credits = [] ∧
        world.db.credits.find credit.id = some row ∨
      context.writes.credits = [.put credit] ∧ row = credit)
    (same : updated.id = row.id ∧ updated.accountId = row.accountId ∧
      updated.currencyId = row.currencyId)
    (writes : final.writes.credits =
      context.writes.credits ++ [.put updated]) :
    (∃ fresh, ∀ change ∈ final.writes.credits,
      CreditCovered final world fresh change) ∧
    (row ∈ world.db.credits ∧ final.writes.credits = [.put updated] ∨
      creditOf world.db credit.accountId credit.currencyId = none ∧
        world.db.credits.find row.id = none ∧ row.balance = .zero ∧
        final.writes.credits = [.put row, .put updated]) := by
  obtain ⟨sameId, sameAccount, sameCurrency⟩ := same
  rcases source with ⟨plain, present⟩ | ⟨made, rfl⟩
  · rw [plain, List.nil_append] at writes
    obtain ⟨stored, rowId⟩ := Table.find_eq_some.mp present
    rw [CreditRow.key_eq] at rowId
    refine ⟨⟨none, ?_⟩, .inl ⟨stored, writes⟩⟩
    rw [writes, List.forall_mem_singleton]
    exact .update updated row stored sameId sameAccount sameCurrency
      (rowId ▸ locked)
  · rw [made] at writes
    cases origin with
    | found plain => simp [made] at plain
    | new _ missing owned recorded key free zero user known =>
        have inserted : ∀ change : CreditRow, change.id = row.id →
            change.accountId = row.accountId →
            change.currencyId = row.currencyId →
            CreditCovered final world
              (some (row.id, row.accountId, row.currencyId))
              (.put change) := by
          intro change sameId sameAccount sameCurrency
          refine .insert change (by rw [sameId, sameAccount, sameCurrency])
            ?_ ?_ ?_ ?_ ?_ ?_ ?_ <;>
            simp only [sameId, sameAccount, sameCurrency]
          · exact missing
          · exact grows.owned _ owned
          · exact recorded
          · exact grows.locks _ key
          · exact free
          · exact user
          · exact known
        refine ⟨⟨some (row.id, row.accountId, row.currencyId), ?_⟩,
          .inr ⟨creditOf_eq_none.mpr free, missing, zero, writes⟩⟩
        rw [writes, List.singleton_append, List.forall_mem_cons,
          List.forall_mem_singleton]
        exact ⟨inserted row rfl rfl rfl,
          inserted updated sameId sameAccount sameCurrency⟩

end Origin

/-- What the transaction says when it fails. -/
def Rejects (drawn : Prop) (body : CreditAdjustmentDto) (actor : Nat)
    (failure : Failure) (context : DbContext) (world : DbWorld) : Prop :=
  context.commits = 0 ∧
    Refusal drawn body actor (AdminMutationService.rethrow failure) context
      world

/-- After the key is claimed every failure leaves it unused. -/
theorem rejects_claimed {first : DbWorld} {failure : Failure}
    (uncommitted : context.commits = 0)
    (locked : (Lock.idempotencyKey body.idempotencyKey, LockMode.update) ∈
      context.locks)
    (unused : ∀ row ∈ first.db.entries,
      row.idempotencyKey ≠ body.idempotencyKey)
    (keeps : Keeps environment first world
      (.lock (.idempotencyKey body.idempotencyKey) .update)) :
    Rejects drawn body actor failure context world :=
  ⟨uncommitted, .first locked (keeps unused)⟩

/-- Identifiers of balances are drawn once. -/
theorem absent_of_fresh {id : Nat} (inv : Invariant environment drawn world)
    (unused : (Draw.creditId, id) ∉ world.drawn) (all : drawn) :
    world.db.credits.find id = none := by
  rw [Table.find_eq_none]
  rintro row stored rfl
  exact unused (inv.credits all row stored)

theorem within_insertCredit {id : Nat} {next : Unit → Tx α}
    (clean : context.writes = ∅) (uncommitted : context.commits = 0)
    (owned : (Draw.creditId, id) ∈ context.owned)
    (recorded : (Draw.creditId, id) ∈ world.drawn)
    (absent : drawn → world.db.credits.find id = none)
    (rejected : ∀ failure later now, Rejects drawn body actor failure later now →
      failed failure later now)
    (found : ∀ now locks, Relies environment drawn context world now →
      FitsInteger body → (drawn → ∃ row ∈ now.db.credits, row.accountId = body.accountId ∧
        row.currencyId = body.currencyId) →
      Within environment drawn (next ()) post failed (context.extend locks ∅)
        now)
    (created : ∀ now locks credit, Relies environment drawn context world now →
      FitsInteger body → credit.accountId = body.accountId → credit.currencyId = body.currencyId →
      Origin (context.extend locks { credits := [.put credit] }) now credit →
      Within environment drawn (next ()) post failed
        (context.extend locks { credits := [.put credit] }) now) :
    Within environment drawn
      (insertCredit id body.accountId body.currencyId >>= next) post failed
      context world := by
  refine within_execute ?_ ?_
  · intro now rely failure stepped
    rw [view_clean clean] at stepped
    apply rejected
    refine ⟨uncommitted, ?_⟩
    split at stepped
    · rename_i unfit
      rcases unfit with account | currency
      · exact .unstorable (.inr (.inl account))
      · exact .unstorable (.inr (.inr (.inl currency)))
    · split at stepped
      · cases stepped
      · split at stepped
        · rename_i missing
          cases stepped
          exact .user rfl body.accountId (.inl rfl)
            fun _ => by simpa using missing
        · split at stepped
          · rename_i missing
            cases stepped
            exact .currency rfl (by simpa using missing)
          · cases stepped
  · intro now rely value writes stepped
    rw [view_clean clean] at stepped ⊢
    split at stepped
    · cases stepped
    · rename_i fits
      have fits : FitsInteger body := by simpa [FitsInteger] using fits
      split at stepped
      · rename_i conflict
        cases stepped
        refine found now _ rely fits fun all => ?_
        rcases conflict with same | taken
        · obtain ⟨row, same⟩ := Option.isSome_iff_exists.mp same
          exact ⟨row, creditOf_eq_some same⟩
        · have free : now.db.credits.find id = none :=
            rely.keeps (.value .creditId id) owned (absent all)
          simp [free] at taken
      · rename_i free
        push Not at free
        obtain ⟨unused, free⟩ := free
        split at stepped
        · cases stepped
        · rename_i user
          split at stepped
          · cases stepped
          · rename_i known
            cases stepped
            have noCredit : creditOf now.db body.accountId body.currencyId =
                none := by simpa using unused
            rw [noCredit]
            refine created now _ _ rely fits rfl rfl (.new ?_ ?_ ?_ ?_ ?_ ?_ rfl ?_ ?_)
            · simp [clean]
            · simpa using free
            · simpa using owned
            · exact (kept_always rely).drawn _ recorded
            · simp
            · exact creditOf_eq_none.mp noCredit
            · simpa [Option.isSome_iff_ne_none] using user
            · simpa [Option.isSome_iff_ne_none] using known

/-- The balance row is found, own insertions included. -/
theorem within_findCredit {next : CreditRow → Tx α}
    (uncommitted : context.commits = 0)
    (state : context.writes.credits = [] ∧
        (drawn → ∃ row ∈ world.db.credits, row.accountId = body.accountId ∧
          row.currencyId = body.currencyId) ∨
      ∃ credit, credit.accountId = body.accountId ∧
        credit.currencyId = body.currencyId ∧
        context.writes.credits = [.put credit] ∧ Origin context world credit)
    (rejected : ∀ failure later now, Rejects drawn body actor failure later now →
      failed failure later now)
    (step : ∀ now credit, Relies environment drawn context world now →
      credit.accountId = body.accountId → credit.currencyId = body.currencyId →
      Origin context now credit →
      Within environment drawn (next credit) post failed context now) :
    Within environment drawn
      (findCredit body.accountId body.currencyId >>= next) post failed context
      world := by
  simp only [findCredit, bind_assoc]
  refine within_query fun now rely => ?_
  rcases state with ⟨writes, present⟩ | ⟨credit, account, currency, writes, origin⟩
  · have plain : (now.view context).credits = now.db.credits := by
      simp [World.view, writes]
    cases found : creditOf (now.view context) body.accountId
        body.currencyId with
    | none =>
        refine rejected _ _ _ ⟨uncommitted, ?_⟩
        by_cases all : drawn
        · obtain ⟨row, stored, account, currency⟩ := present all
          obtain ⟨same, member, _, sameAccount, sameCurrency⟩ :=
            (kept_always rely).credits row stored
          have absent := creditOf_eq_none.mp found
          rw [plain] at absent
          exact absurd ⟨sameAccount.trans account, sameCurrency.trans currency⟩
            (absent same member)
        · exact .undrawn all
    | some credit =>
        obtain ⟨stored, account, currency⟩ := creditOf_eq_some found
        rw [plain] at stored
        exact step now credit rely account currency
          (.found writes credit stored rfl rfl rfl)
  · have originNow := origin.kept rely.keeps
    have view : (now.view context).credits = now.db.credits.put credit := by
      simp [World.view, writes]
    have member : credit ∈ (now.view context).credits := by
      rw [view]
      exact Table.mem_put.mpr (.inl rfl)
    cases found : creditOf (now.view context) body.accountId
        body.currencyId with
    | none =>
        exact absurd ⟨account, currency⟩
          (creditOf_eq_none.mp found credit member)
    | some row =>
        obtain ⟨stored, rowAccount, rowCurrency⟩ := creditOf_eq_some found
        rw [view] at stored
        have rows : row = credit := by
          rcases Table.mem_put.mp stored with same | ⟨old, _⟩
          · exact same
          · cases originNow with
            | found plain => simp [writes] at plain
            | new _ _ _ _ _ unused =>
                exact absurd ⟨rowAccount.trans account.symm,
                  rowCurrency.trans currency.symm⟩ (unused row old)
        subst rows
        exact step now row rely account currency originNow

/-- The key is taken, or this transaction claims it. -/
theorem within_insertEntry {id : Nat} {credit : CreditRow}
    {next : Bool → Tx α} (origin : Origin context world credit)
    (nonzero : body.amount.isZeroText = false)
    (entries : context.writes.entries = [])
    (users : context.writes.users = []) (uncommitted : context.commits = 0)
    (rejected : ∀ failure later now, Rejects drawn body actor failure later now →
      failed failure later now)
    (conflict : ∀ now row locks, Relies environment drawn context world now →
      EntryFor body actor credit.id id row →
      ((∃ entry ∈ now.db.entries,
          entry.idempotencyKey = body.idempotencyKey) ∨
        (Lock.idempotencyKey body.idempotencyKey, LockMode.update) ∈ locks ∧
          ∀ row ∈ now.db.entries,
            row.idempotencyKey ≠ body.idempotencyKey) →
      Within environment drawn (next false) post failed
        (context.extend locks ∅) now)
    (claimed : ∀ now row, Relies environment drawn context world now →
      EntryFor body actor credit.id id row →
      (∀ row ∈ now.db.entries, row.idempotencyKey ≠ body.idempotencyKey) →
      now.db.entries.find id = none → (now.db.users.find actor).isSome →
      Within environment drawn (next true) post failed
        (context.extend
          [(.idempotencyKey body.idempotencyKey, .update)]
          { entries := [.put row] }) now) :
    Within environment drawn (insertEntry id credit.id actor body >>= next)
      post failed context world := by
  have view : ∀ now : DbWorld, (now.view context).entries = now.db.entries := by
    intro now
    simp [World.view, entries]
  have sameUsers : ∀ now : DbWorld, (now.view context).users = now.db.users := by
    intro now
    simp [World.view, users]
  have sameEntryOf : ∀ now : DbWorld,
      entryOf (now.view context) body.idempotencyKey =
        entryOf now.db body.idempotencyKey := by
    intro now
    unfold entryOf
    rw [view]
  refine within_execute ?_ ?_
  · intro now rely failure stepped
    refine rejected _ _ _ ⟨uncommitted, ?_⟩
    cases row : entryRow id credit.id actor context.now body with
    | error failure' =>
        exact .unstorable (unstorable_of_entryRow nonzero row)
    | ok row' =>
        simp only [row] at stepped
        split at stepped
        · cases stepped
        · split at stepped
          · rename_i missing
            obtain ⟨found, visible, _⟩ := (origin.kept rely.keeps).visible
            simp [visible] at missing
          · split at stepped
            · rename_i missing
              cases stepped
              rw [sameUsers] at missing
              exact .user rfl actor (.inr rfl) fun _ => by simpa using missing
            · cases stepped
  · intro now rely value writes stepped
    cases row : entryRow id credit.id actor context.now body with
    | error failure => simp [row] at stepped
    | ok row' =>
        simp only [row, sameEntryOf, view] at stepped ⊢
        split at stepped
        · rename_i taken
          cases stepped
          refine conflict now row' _ rely (entryFor_of_entryRow row) ?_
          cases found : entryOf now.db body.idempotencyKey with
          | none => exact .inr ⟨by simp, entryOf_eq_none.mp found⟩
          | some entry => exact .inl ⟨entry, entryOf_eq_some found⟩
        · rename_i free
          push Not at free
          split at stepped
          · cases stepped
          · split at stepped
            · cases stepped
            · rename_i operator
              cases stepped
              have none : entryOf now.db body.idempotencyKey = none := by
                simpa using free.1
              rw [none]
              rw [sameUsers] at operator
              exact claimed now row' rely (entryFor_of_entryRow row)
                (entryOf_eq_none.mp none) (by simpa using free.2)
                (by simpa [Option.isSome_iff_ne_none] using operator)

theorem within_increment {credit : CreditRow} {amount : Int}
    {next : Unit → Tx α} (origin : Origin context world credit)
    (rejected : ∀ now failure, Relies environment drawn context world now →
      failed failure context now)
    (step : ∀ now row balance, Relies environment drawn context world now →
      (now.view context).credits.find credit.id = some row →
      balance.units = row.balance.units + amount →
      Within environment drawn (next ()) post failed
        (context.extend [(.credit credit.id, .update)]
          { credits :=
              [.put { row with balance, updatedAt := context.now }] }) now) :
    Within environment drawn (increment credit.id amount >>= next) post failed
      context world := by
  refine within_execute (fun now rely failure _ => rejected now failure rely) ?_
  intro now rely value writes stepped
  obtain ⟨row, visible, _⟩ := (origin.kept rely.keeps).visible
  simp only [visible] at stepped ⊢
  split at stepped
  · cases stepped
  · rename_i balance fits
    cases stepped
    exact step now row balance rely visible (Numeric.ofUnits_eq_some.mp fits)

theorem adjust_guarantee (inv : Invariant environment drawn world)
    (core : context.request.core = .adjust body actor)
    (only : OnlyCredits context.writes)
    (credits : ∃ fresh, ∀ change ∈ context.writes.credits,
      CreditCovered context world fresh change)
    (entries : ∃ fresh, ∀ change ∈ context.writes.entries,
      EntryCovered context world.db fresh change)
    (effect : Replayed (world.record context) body actor ∨
      ∃ credit updated entry,
        Applied (world.record context) body actor credit updated entry) :
    (discipline environment drawn).Guarantee context world
      (world.commit context) := by
  have request : (world.record context).request.core = .adjust body actor :=
    core
  refine guarantee inv ?_ ?_
  · exact
      { workspaces := by simp [only.workspaces]
        members := by simp [only.members]
        invitations := ⟨none, by simp [only.invitations]⟩
        users := by simp [only.users]
        sessions := by simp [only.sessions]
        credits, entries }
  · unfold Effect
    rw [request]
    exact ⟨only, effect⟩

/-- What `adjust` answers once it has committed. -/
def Adjusts (body : CreditAdjustmentDto) (actor : Nat)
    (result : AdjustmentResult) (context : DbContext) (world : DbWorld) : Prop :=
  ∃ commit ∈ world.commits, commit.tid = context.tid ∧
    (result.replayed = true ↔ commit.writes.entries = []) ∧
    ∃ entry, Records world.db body actor entry

/-- What a transaction of `adjust` owes when it returns. -/
def Settles (environment : Environment) (drawn : Prop)
    (body : CreditAdjustmentDto) (actor : Nat) (result : AdjustmentResult)
    (context : DbContext) (world : DbWorld) : Prop :=
  (discipline environment drawn).Guarantee context world
      (world.commit context) ∧
    Adjusts body actor result context.release (world.commit context)

theorem verify_replay {credit : CreditRow}
    (core : context.request.core = .adjust body actor)
    (only : OnlyCredits context.writes) (entries : context.writes.entries = [])
    (uncommitted : context.commits = 0) (origin : Origin context world credit)
    (account : credit.accountId = body.accountId)
    (currency : credit.currencyId = body.currencyId)
    (storable : ¬Unstorable body)
    (taken : (∃ entry ∈ world.db.entries,
        entry.idempotencyKey = body.idempotencyKey) ∨
      (Lock.idempotencyKey body.idempotencyKey, LockMode.update) ∈
          context.locks ∧
        ∀ row ∈ world.db.entries,
          row.idempotencyKey ≠ body.idempotencyKey) :
    Within environment drawn (replay credit.id actor body)
      (Settles environment drawn body actor) (Rejects drawn body actor) context
      world := by
  unfold replay
  refine within_query fun now1 rely1 => ?_
  have origin1 := origin.kept rely1.keeps
  have view : (now1.view context).entries = now1.db.entries := by
    simp [World.view, entries]
  rw [view]
  split
  · rename_i unknown
    refine ⟨uncommitted, ?_⟩
    rcases taken with ⟨entry, stored, key⟩ | ⟨locked, unused⟩
    · refine .taken rfl entry ((kept_always rely1).entries entry stored) key ?_
      intro records
      have same := origin1.entry_of_records rely1.inv.sound account currency
        records
      simp only [List.any_eq_false, decide_eq_true_eq] at unknown
      exact unknown entry records.stored same
    · exact .first locked
        (rely1.keeps (.lock (.idempotencyKey _) .update) locked unused)
  · rename_i known
    simp only [Bool.not_eq_false, List.any_eq_true, decide_eq_true_eq] at known
    obtain ⟨entry, stored, same⟩ := known
    obtain ⟨nothing, records⟩ := origin1.records_of_entry rely1.inv.sound account
      currency stored same
    simp only [findCreditById, bind_assoc]
    refine within_query fun now2 rely2 => ?_
    obtain ⟨row, visible, _⟩ := (origin1.kept rely2.keeps).visible
    rw [visible]
    refine within_done fun now3 rely3 => ?_
    have records3 := Records.kept
      ((kept_always rely2).trans (kept_always rely3)) records
    have guaranteed : (discipline environment drawn).Guarantee context now3
        (now3.commit context) := adjust_guarantee rely3.inv core only
      ⟨none, by simp [nothing]⟩ ⟨none, by simp [entries]⟩
      (.inl ⟨storable, ⟨entry, records3⟩, nothing, entries⟩)
    refine ⟨guaranteed, _, List.mem_cons_self, rfl, ?_, entry, ?_⟩
    · simp [World.record, entries]
    · exact Records.kept (guaranteed.keeps .always trivial) records3

theorem verify_book {credit : CreditRow} {entry : EntryRow} {entryId : Nat}
    (inv : Invariant environment drawn world)
    (core : context.request.core = .adjust body actor)
    (only : OnlyCredits context.writes)
    (entries : context.writes.entries = [.put entry])
    (uncommitted : context.commits = 0) (origin : Origin context world credit)
    (account : credit.accountId = body.accountId)
    (currency : credit.currencyId = body.currencyId)
    (recorded : EntryFor body actor credit.id entryId entry)
    (nonzero : body.amount.isZeroText = false) (fits : FitsInteger body)
    (locked : (Lock.idempotencyKey body.idempotencyKey, LockMode.update) ∈
      context.locks)
    (unused : ∀ row ∈ world.db.entries,
      row.idempotencyKey ≠ body.idempotencyKey)
    (owned : (Draw.entryId, entryId) ∈ context.owned)
    (absent : world.db.entries.find entryId = none)
    (operator : (world.db.users.find actor).isSome) :
    Within environment drawn (book credit.id actor body)
      (Settles environment drawn body actor) (Rejects drawn body actor) context
      world := by
  refine within_hold (.lock (.idempotencyKey body.idempotencyKey) .update)
    locked inv ?_
  refine within_hold (.value .entryId entryId) owned inv ?_
  unfold book
  refine within_increment origin ?_ ?_
  · exact fun now failure rely _ keepsKey =>
      rejects_claimed uncommitted locked unused keepsKey
  intro now1 row balance rely1 visible sum
  obtain ⟨row', visible', rowAccount, rowCurrency, source⟩ :=
    (origin.kept rely1.keeps).visible
  obtain rfl : row = row' := Option.some.inj (visible.symm.trans visible')
  refine within_relies rely1.inv ?_
  simp only [findCreditById, bind_assoc]
  refine within_query fun now2 rely2 => ?_
  split
  · exact fun _ _ keepsKey =>
      rejects_claimed uncommitted (by simp [locked]) unused keepsKey
  refine within_audit ?_ ?_
  · exact fun now failure value _ _ keepsKey =>
      rejects_claimed uncommitted (by simp [locked]) unused keepsKey
  intro now3 value activities rely3
  refine within_done fun now4 rely4 keeps keepsId keepsKey => ?_
  have origin4 := (origin.kept rely1.keeps).kept fun hold held => keeps hold
    (((Context.Grows.refl context).extend _ _).has held)
  have rowId : row.id = credit.id := (Table.find_eq_some.mp visible).2
  have unused4 := keepsKey unused
  have absent4 : now4.db.entries.find entry.id = none := by
    rw [recorded.id]
    exact keepsId absent
  let updated : CreditRow := { row with balance, updatedAt := context.now }
  have sumHere : updated.balance.units = row.balance.units +
      entry.amount.units := by
    rw [recorded.amount]
    exact sum
  let final : DbContext := ((context.extend [(.credit credit.id, .update)]
    { credits := [.put updated] }).own .activityId value).extend []
      { activities }
  have grows : context.Grows final :=
    (((Context.Grows.refl context).extend _ _).own _ _).extend _ _
  have finalCredits : final.writes.credits =
      context.writes.credits ++ [.put updated] := by simp [final]
  have finalEntries : final.writes.entries = [.put entry] := by
    simp [final, entries]
  have sourceLater : context.writes.credits = [] ∧
        now4.db.credits.find credit.id = some row ∨
      context.writes.credits = [.put credit] ∧ row = credit := by
    rcases source with ⟨plain, stored⟩ | made
    · refine .inl ⟨plain, ?_⟩
      rw [keeps (.lock (.credit credit.id) .update) (by simp [Context.Has])
        (Table.find_isSome.mpr ⟨row, stored, rowId⟩), ← rowId]
      exact Table.find_key stored
    · exact .inr made
  have sameKey : updated.id = row.id ∧ updated.accountId = row.accountId ∧
      updated.currencyId = row.currencyId := ⟨rfl, rfl, rfl⟩
  obtain ⟨creditsCovered, balances⟩ := origin4.covered grows
    (by simp [final]) sourceLater sameKey finalCredits
  rw [account, currency] at balances
  have always : Kept environment world now4 :=
    (kept_always rely1).trans (keeps .always trivial)
  have updatedStored :
      (WriteSet.apply final.writes now4.db).credits.find credit.id =
        some updated := by
    rw [Db.apply_credits, finalCredits, Table.applyAll_append,
      Table.applyAll_put, Table.find_put]
    exact if_pos rowId.symm
  have covered : EntryCovered final now4.db (some entry) (.put entry) := by
    refine .insert entry rfl absent4 ?_ ?_ ?_ ?_ ?_
    · exact grows.owned _ (recorded.id ▸ owned)
    · exact grows.locks _ (recorded.key ▸ locked)
    · exact recorded.key ▸ unused4
    · rw [recorded.creditId, updatedStored]
      rfl
    · exact always.users _ (recorded.operator ▸ operator)
  have applied : Applied (now4.record final) body actor row updated entry :=
    { storable := recorded.storable nonzero fits
      freshKey := unused4
      freshId := absent4
      key := recorded.key
      creditId := recorded.creditId.trans rowId.symm
      amount := recorded.amount
      nonzero := recorded.nonzero
      reason := recorded.reason
      operator := recorded.operator
      accountId := rowAccount.trans account
      currencyId := rowCurrency.trans currency
      sameId := rfl
      sameAccount := rfl
      sameCurrency := rfl
      balance := sumHere
      entries := finalEntries
      credits := balances }
  have finalOnly : OnlyCredits final.writes := by
    constructor <;>
      simp [final, only.roles, only.users, only.sessions, only.workspaces, only.members,
        only.invitations]
  have guaranteed : (discipline environment drawn).Guarantee final now4
      (now4.commit final) := adjust_guarantee rely4.inv core finalOnly
    creditsCovered ⟨some entry, by simpa [finalEntries] using covered⟩
    (.inr ⟨row, updated, entry, applied⟩)
  refine ⟨guaranteed, _, List.mem_cons_self, rfl, ?_, entry, ?_⟩
  · simp [World.record, entries]
  · exact
      { stored := by
          rw [World.commit, Db.apply_entries, finalEntries,
            Table.applyAll_put]
          exact Table.mem_put.mpr (.inl rfl)
        key := recorded.key
        credit := ⟨updated, (Table.find_eq_some.mp updatedStored).1,
          rowId.trans recorded.creditId.symm, rowAccount.trans account,
          rowCurrency.trans currency⟩
        amount := recorded.amount
        reason := recorded.reason
        operator := recorded.operator }

/-- From the balance row on. -/
theorem verify_claim
    (core : context.request.core = .adjust body actor)
    (only : OnlyCredits context.writes) (entries : context.writes.entries = [])
    (uncommitted : context.commits = 0)
    (nonzero : body.amount.isZeroText = false) (fits : FitsInteger body)
    (state : context.writes.credits = [] ∧
        (drawn → ∃ row ∈ world.db.credits, row.accountId = body.accountId ∧
          row.currencyId = body.currencyId) ∨
      ∃ credit, credit.accountId = body.accountId ∧
        credit.currencyId = body.currencyId ∧
        context.writes.credits = [.put credit] ∧ Origin context world credit) :
    Within environment drawn
      (do
        let credit ← findCredit body.accountId body.currencyId
        let entryId ← Program.draw .entryId
        let inserted ← insertEntry entryId credit.id actor body
        if inserted = false then replay credit.id actor body
        else book credit.id actor body)
      (Settles environment drawn body actor) (Rejects drawn body actor) context
      world := by
  refine within_findCredit uncommitted state (fun _ _ _ rejects => rejects) ?_
  intro now1 credit rely1 account currency origin1
  refine within_fresh fun now2 rely2 entryId _ _ => ?_
  have silent : now2.Silent
      { now2 with drawn := (.entryId, entryId) :: now2.drawn } := .draw _
  have rely3 := rely2.trans (.ofSilent silent rely2.inv)
  have origin3 := (origin1.kept rely3.keeps).grow
    ((Context.Grows.refl context).own .entryId entryId) rfl
  refine within_insertEntry origin3 nonzero entries only.users uncommitted
    (fun _ _ _ rejects => rejects) ?_ ?_
  · intro now4 row locks rely4 recorded taken
    have origin4 := (origin3.kept rely4.keeps).grow
      ((Context.Grows.refl _).extend locks ∅) (by simp)
    refine verify_replay core (by simpa using only) (by simpa using entries)
      uncommitted origin4 account currency (recorded.storable nonzero fits) ?_
    rcases taken with stored | ⟨locked, unused⟩
    · exact .inl stored
    · exact .inr ⟨List.mem_append_left _ locked, unused⟩
  · intro now4 entry rely4 recorded unused absent operator
    have origin4 := (origin3.kept rely4.keeps).grow
      ((Context.Grows.refl _).extend
        [(.idempotencyKey body.idempotencyKey, .update)]
        { entries := [.put entry] }) (by simp)
    refine verify_book rely4.inv core ?_ (by simp [entries]) uncommitted
      origin4 account currency recorded nonzero fits (by simp) unused (by simp) absent
      operator
    constructor <;>
      simp [only.roles, only.users, only.sessions, only.workspaces, only.members,
        only.invitations]

theorem verify_applyOnce
    (core : context.request.core = .adjust body actor)
    (clean : context.writes = ∅) (uncommitted : context.commits = 0)
    (nonzero : body.amount.isZeroText = false) :
    Within environment drawn (applyOnce body actor)
      (Settles environment drawn body actor) (Rejects drawn body actor) context
      world := by
  unfold applyOnce
  refine within_fresh fun now1 rely1 creditId _ unused => ?_
  have absent : drawn → now1.db.credits.find creditId = none :=
    absent_of_fresh rely1.inv unused
  refine within_insertCredit (by simpa using clean) (by simpa using uncommitted)
    List.mem_cons_self List.mem_cons_self absent (fun _ _ _ rejects => rejects)
    ?_ ?_
  · intro now2 locks rely2 fits present
    refine verify_claim core ?_ (by simp [clean]) uncommitted nonzero fits
      (.inl ⟨by simp [clean], present⟩)
    constructor <;> simp [clean]
  · intro now2 locks credit rely2 fits account currency origin
    refine verify_claim core ?_ (by simp [clean]) uncommitted nonzero fits
      (.inr ⟨credit, account, currency, by simp [clean], origin⟩)
    constructor <;> simp [clean]

theorem verify_adjust (core : context.request.core = .adjust body actor)
    (clean : context.writes = ∅) (uncommitted : context.commits = 0) :
    Wp environment drawn (adjust body actor) (Adjusts body actor)
      (fun failure context world =>
        context.commits = 0 ∧
          Refusal drawn body actor failure context world)
      context world := by
  unfold adjust
  split
  · rename_i zero
    exact ⟨uncommitted, .unstorable (.inl zero)⟩
  · rename_i nonzero
    refine wp_mapError (wp_opened ?_)
    intro opened start fresh rely
    exact verify_applyOnce (fresh.request ▸ core)
      (fresh.writes.trans clean) (fresh.commits.trans uncommitted)
      (by simpa using nonzero)

end AccountCreditsService

end SaasFoundation
