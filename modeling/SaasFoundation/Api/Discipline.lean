import SaasFoundation.Api.Coverage

/-!
# The discipline all requests follow

`discipline` puts together what holds between commits, what each lock
protects, and what a request can say about its answer.  `guarantee` is the
obligation of a transaction: its writes are covered, and its commit is one of
those its request may make.
-/

namespace SaasFoundation

open Relational Transaction

namespace Api

/-- Why an adjustment fails. -/
inductive Refusal (drawn : Prop) (body : CreditAdjustmentDto) (actor : Nat)
    (failure : Failure) (context : DbContext) (world : DbWorld) : Prop where
  | unstorable (body : Unstorable body)
  | user (status : failure.status = 409) (id : Nat)
      (named : id = body.accountId ∨ id = actor)
      (missing : (∀ commit ∈ world.commits, commit.writes.users = []) →
        world.db.users.find id = none)
  | currency (status : failure.status = 409)
      (missing : world.db.currencies.find body.currencyId = none)
  | taken (status : failure.status = 409) (entry : EntryRow)
      (stored : entry ∈ world.db.entries)
      (key : entry.idempotencyKey = body.idempotencyKey)
      (different : ¬Records world.db body actor entry)
  | first (locked : (Lock.idempotencyKey body.idempotencyKey,
        LockMode.update) ∈ context.locks)
      (unused : ∀ row ∈ world.db.entries,
        row.idempotencyKey ≠ body.idempotencyKey)
  | undrawn (initial : ¬drawn)

/-- Other addresses take all the invitations of a locked workspace, seen from
the start of the transaction. -/
structure Full (id : Nat) (email : String) (context : DbContext)
    (world : DbWorld) : Prop where
  locked : (Lock.workspace id, LockMode.update) ∈ context.locks
  present : (world.db.workspaces.find id).isSome
  count : 100 ≤ WorkspacesService.otherInvitationCount context.now world.db id
    email

/-- Why an invitation fails. -/
structure InviteRefused (id : Nat) (email : String) (failure : Failure)
    (context : DbContext) (world : DbWorld) : Prop where
  pending : failure ≠ .query .uniqueViolation (some .pendingInvitation)
  limit : failure = .conflict "invitationLimit" → Full id email context world

/-- What a reply says about the committed state. -/
def Answers (reply : Reply) (context : DbContext) (world : DbWorld) : Prop :=
  match context.request.core with
  | .adjust body actor =>
      ∃ result, reply = .adjustment result ∧
        ∃ commit ∈ world.commits, commit.tid = context.tid ∧
          (result.replayed = true ↔ commit.writes.entries = []) ∧
          ∃ entry, Records world.db body actor entry
  | .auth (.refreshToken sessionId hash) =>
      ∃ tokens, reply = .tokens tokens ∧
        ∃ commit ∈ world.commits, commit.tid = context.tid ∧
          Accepts commit sessionId hash tokens.hash
  | .workspace (.list _) => True
  | .workspace _ => ∃ commit ∈ world.commits, commit.tid = context.tid
  | _ => True

/-- What a failure says about the committed state. -/
def Refuses (drawn : Prop) (failure : Failure) (context : DbContext)
    (world : DbWorld) : Prop :=
  match context.request.core with
  | .adjust body actor =>
      context.commits = 0 ∧ Refusal drawn body actor failure context world
  | .workspace (.invite id _ body) =>
      InviteRefused id body.email failure context world
  | _ => True

/-- What holds between any two steps of any requests. -/
structure Invariant (environment : Environment) (drawn : Prop)
    (world : DbWorld) : Prop where
  sound : Sound world.db
  history : Legal (Effect environment.runtime drawn) world.commits
  hashes : drawn → ∀ state ∈ world.states, ∀ row ∈ state.sessions,
    (Draw.randomBytes, row.hash) ∈ world.drawn
  credits : drawn → ∀ row ∈ world.db.credits,
    (Draw.creditId, row.id) ∈ world.drawn

theorem Records.kept {environment : Environment} {before after : DbWorld}
    (kept : Kept environment before after) {body : CreditAdjustmentDto}
    {actor : Nat} {entry : EntryRow}
    (records : Records before.db body actor entry) :
    Records after.db body actor entry where
  stored := kept.entries entry records.stored
  key := records.key
  credit := by
    obtain ⟨credit, member, id, account, currency⟩ := records.credit
    obtain ⟨later, laterMember, sameId, sameAccount, sameCurrency⟩ :=
      kept.credits credit member
    exact ⟨later, laterMember, sameId.trans id, sameAccount.trans account,
      sameCurrency.trans currency⟩
  amount := records.amount
  reason := records.reason
  operator := records.operator

/-- An entry of another request stays one. -/
theorem not_records_kept {environment : Environment} {before after : DbWorld}
    (kept : Kept environment before after) (sound : Sound before.db)
    {body : CreditAdjustmentDto} {actor : Nat} {entry : EntryRow}
    (stored : entry ∈ before.db.entries)
    (different : ¬Records before.db body actor entry) :
    ¬Records after.db body actor entry := by
  intro records
  obtain ⟨later, laterMember, id, account, currency⟩ := records.credit
  obtain ⟨credit, member, creditId⟩ :=
    Table.find_isSome.mp (sound.entryCredit entry stored)
  obtain ⟨same, sameMember, sameId, sameAccount, sameCurrency⟩ :=
    kept.credits credit member
  have rows : same = later := by
    apply Table.eq_of_key sameMember laterMember
    exact (sameId.trans creditId).trans id.symm
  subst rows
  exact different
    ⟨stored, records.key, ⟨credit, member, creditId,
      sameAccount.symm.trans account, sameCurrency.symm.trans currency⟩,
      records.amount, records.reason, records.operator⟩

theorem Answers.kept {environment : Environment} {reply : Reply}
    {context : DbContext} {before after : DbWorld}
    (answers : Answers reply context before)
    (kept : Kept environment before after) : Answers reply context after := by
  unfold Answers at answers ⊢
  split
  · rename_i request body actor core
    simp only [core] at answers
    obtain ⟨result, same, commit, member, tid, replayed, entry, records⟩ :=
      answers
    exact ⟨result, same, commit, kept.commits.subset member, tid, replayed,
      entry, Records.kept kept records⟩
  · rename_i request sessionId hash core
    simp only [core] at answers
    obtain ⟨tokens, same, commit, member, tid, accepts⟩ := answers
    exact ⟨tokens, same, commit, kept.commits.subset member, tid, accepts⟩
  · trivial
  · rename_i request call changes core
    simp only [core] at answers
    obtain ⟨commit, member, tid⟩ := answers
    exact ⟨commit, kept.commits.subset member, tid⟩
  · trivial

theorem Refuses.kept {environment : Environment} {drawn : Prop}
    {failure : Failure} {context : DbContext} {before after : DbWorld}
    (refuses : Refuses drawn failure context before)
    (sound : Sound before.db)
    (keeps : ∀ hold, context.Has hold → Keeps environment before after hold) :
    Refuses drawn failure context after := by
  have kept : Kept environment before after := keeps .always trivial
  unfold Refuses at refuses ⊢
  split
  · rename_i request core
    simp only [core] at refuses
    refine ⟨refuses.1, ?_⟩
    cases refuses.2 with
    | unstorable body => exact .unstorable body
    | user status id named missing =>
        refine .user status id named fun quiet => ?_
        rw [kept.sameUsers quiet]
        exact missing fun commit member =>
          quiet commit (kept.commits.subset member)
    | currency status missing =>
        exact .currency status (kept.currencies ▸ missing)
    | taken status entry stored key different =>
        exact .taken status entry (kept.entries entry stored) key
          (not_records_kept kept sound stored different)
    | first locked unused =>
        exact .first locked (keeps (.lock _ _) locked unused)
    | undrawn initial => exact .undrawn initial
  · rename_i request id userId body core
    simp only [core] at refuses
    refine ⟨refuses.pending, fun limit => ?_⟩
    have full := refuses.limit limit
    have same : WorkspaceKept id before.db after.db :=
      keeps (.lock _ _) full.locked full.present
    refine ⟨full.locked, same.present full.present, ?_⟩
    rw [same.otherInvitationCount]
    exact full.count
  · trivial

/-- The rely-guarantee discipline of the database. -/
def discipline (environment : Environment) (drawn : Prop) :
    Discipline Db Writes Lock Draw Failure Request Reply where
  Inv := Invariant environment drawn
  Keeps hold before after := Keeps environment before after hold
  Returns := Answers
  Fails := Refuses drawn
  keeps_trans := Keeps.trans
  inv_silent := by
    intro world next silent inv
    refine ⟨silent.db ▸ inv.sound, silent.commits ▸ inv.history, ?_, ?_⟩
    · intro all state member row rowMember
      rw [World.states, silent.db, silent.commits] at member
      exact silent.drawn _ (inv.hashes all state member row rowMember)
    · intro all row member
      exact silent.drawn _ (inv.credits all row (silent.db ▸ member))
  keeps_silent := fun silent _ => Keeps.refl environment _ silent
  returns_stable := fun answers _ _ keeps => answers.kept (keeps .always trivial)
  fails_stable := fun refuses inv _ keeps => refuses.kept inv.sound keeps

variable {environment : Environment} {context : DbContext} {world : DbWorld}

theorem entries_new (covered : Covered environment context world)
    {row : EntryRow} (member : row ∈ (world.commit context).db.entries) :
    row ∈ world.db.entries ∨
      EntryCovered context world.db (some row) (.put row) := by
  obtain ⟨fresh, each⟩ := covered.entries
  rcases Table.mem_of_mem_applyAll member with put | ⟨old, _⟩
  · right
    cases each _ put with
    | insert _ new absent owned locked unused credit operator =>
        exact .insert row rfl absent owned locked unused credit operator
  · exact .inl old

theorem sound_of_covered (covered : Covered environment context world)
    (sound : Sound world.db) : Sound (world.commit context).db where
  memberWorkspace row member := by
    rcases Table.mem_of_mem_applyAll member with put | ⟨old, _⟩
    · cases covered.members _ put with
      | put _ _ workspace => exact workspace
    · exact (kept_of_covered covered).workspaces _
        (sound.memberWorkspace row old)
  invitationWorkspace row member := by
    obtain ⟨fresh, each⟩ := covered.invitations
    apply (kept_of_covered covered).workspaces
    rcases Table.mem_of_mem_applyAll member with put | ⟨old, _⟩
    · cases each _ put with
      | update _ old stored offer =>
          rw [offer.workspaceId]
          exact sound.invitationWorkspace old stored
      | insert _ _ _ _ _ _ workspace => exact workspace
    · exact sound.invitationWorkspace row old
  tokenUnique left leftMember right rightMember same := by
    obtain ⟨fresh, each⟩ := covered.invitations
    -- Every row offers what an old row offers, or it is the new one.
    have origin : ∀ row ∈ (world.commit context).db.invitations,
        (∃ old ∈ world.db.invitations, SameOffer row old) ∨
          fresh = some row ∧
            ∀ old ∈ world.db.invitations, old.tokenHash ≠ row.tokenHash := by
      intro row member
      rcases Table.mem_of_mem_applyAll member with put | ⟨old, _⟩
      · cases each _ put with
        | update _ old stored offer => exact .inl ⟨old, stored, offer⟩
        | insert _ new _ _ _ unused => exact .inr ⟨new, unused⟩
      · exact .inl ⟨row, old, rfl, rfl, rfl, rfl, rfl⟩
    rcases origin left leftMember with ⟨old, stored, offer⟩ | ⟨new, unused⟩ <;>
      rcases origin right rightMember with
        ⟨old', stored', offer'⟩ | ⟨new', unused'⟩
    · have tokens : old.tokenHash = old'.tokenHash :=
        (offer.tokenHash.symm.trans same).trans offer'.tokenHash
      have rows := sound.tokenUnique old stored old' stored' tokens
      apply Table.eq_of_key leftMember rightMember
      exact (offer.id.trans (congrArg InvitationRow.id rows)).trans
        offer'.id.symm
    · exact absurd (offer.tokenHash.symm.trans same) (unused' old stored)
    · exact absurd (offer'.tokenHash.symm.trans same.symm) (unused old' stored')
    · exact Option.some.inj (new.symm.trans new')
  entryCredit row member := by
    rcases entries_new covered member with old | new
    · exact Table.find_applyAll_isSome (credits_puts covered)
        (sound.entryCredit row old)
    · cases new with
      | insert _ _ _ _ _ _ credit => exact credit
  entryOperator row member := by
    apply (kept_of_covered covered).users
    rcases entries_new covered member with old | new
    · exact sound.entryOperator row old
    · cases new with
      | insert _ _ _ _ _ _ _ operator => exact operator
  keyUnique left leftMember right rightMember same := by
    obtain ⟨fresh, each⟩ := covered.entries
    have origin : ∀ row ∈ (world.commit context).db.entries,
        row ∈ world.db.entries ∨ fresh = some row ∧
          ∀ old ∈ world.db.entries,
            old.idempotencyKey ≠ row.idempotencyKey := by
      intro row member
      rcases Table.mem_of_mem_applyAll member with put | ⟨old, _⟩
      · cases each _ put with
        | insert _ new _ _ _ unused => exact .inr ⟨new, unused⟩
      · exact .inl old
    rcases origin left leftMember with old | ⟨new, unused⟩ <;>
      rcases origin right rightMember with old' | ⟨new', unused'⟩
    · exact sound.keyUnique left old right old' same
    · exact absurd same (unused' left old)
    · exact absurd same.symm (unused right old')
    · exact Option.some.inj (new.symm.trans new')
  creditUnique left leftMember right rightMember account currency := by
    obtain ⟨fresh, each⟩ := covered.credits
    have origin : ∀ row ∈ (world.commit context).db.credits,
        (∃ old ∈ world.db.credits, row.id = old.id ∧
          row.accountId = old.accountId ∧ row.currencyId = old.currencyId) ∨
          fresh = some (row.id, row.accountId, row.currencyId) ∧
            ∀ old ∈ world.db.credits, ¬(old.accountId = row.accountId ∧
              old.currencyId = row.currencyId) := by
      intro row member
      rcases Table.mem_of_mem_applyAll member with put | ⟨old, _⟩
      · cases each _ put with
        | update _ old stored id account currency =>
            exact .inl ⟨old, stored, id, account, currency⟩
        | insert _ new _ _ _ _ unused => exact .inr ⟨new, unused⟩
      · exact .inl ⟨row, old, rfl, rfl, rfl⟩
    apply Table.eq_of_key leftMember rightMember
    rcases origin left leftMember with
        ⟨old, stored, id, sameAccount, sameCurrency⟩ | ⟨new, unused⟩ <;>
      rcases origin right rightMember with
        ⟨old', stored', id', sameAccount', sameCurrency'⟩ | ⟨new', unused'⟩
    · have rows := sound.creditUnique old stored old' stored'
        ((sameAccount.symm.trans account).trans sameAccount')
        ((sameCurrency.symm.trans currency).trans sameCurrency')
      exact (id.trans (congrArg CreditRow.id rows)).trans id'.symm
    · exact absurd ⟨sameAccount.symm.trans account,
        sameCurrency.symm.trans currency⟩ (unused' old stored)
    · exact absurd ⟨sameAccount'.symm.trans account.symm,
        sameCurrency'.symm.trans currency.symm⟩ (unused old' stored')
    · have triples := Option.some.inj (new.symm.trans new')
      exact congrArg Prod.fst triples
  creditAccount row member := by
    apply (kept_of_covered covered).users
    obtain ⟨fresh, each⟩ := covered.credits
    rcases Table.mem_of_mem_applyAll member with put | ⟨old, _⟩
    · cases each _ put with
      | update _ old stored _ account =>
          rw [account]
          exact sound.creditAccount old stored
      | insert _ _ _ _ _ _ _ user => exact user
    · exact sound.creditAccount row old
  creditCurrency row member := by
    obtain ⟨fresh, each⟩ := covered.credits
    rcases Table.mem_of_mem_applyAll member with put | ⟨old, _⟩
    · cases each _ put with
      | update _ old stored _ _ currency =>
          rw [currency]
          exact sound.creditCurrency old stored
      | insert _ _ _ _ _ _ _ _ known => exact known
    · exact sound.creditCurrency row old

/-- What a transaction owes when it commits. -/
theorem guarantee {drawn : Prop} (inv : Invariant environment drawn world)
    (covered : Covered environment context world)
    (effect : Effect environment.runtime drawn (world.record context)
      world.commits) :
    (discipline environment drawn).Guarantee context world
      (world.commit context) where
  inv := by
    refine ⟨sound_of_covered covered inv.sound, ⟨effect, inv.history⟩, ?_, ?_⟩
    · intro all state member row rowMember
      rcases List.mem_cons.mp member with rfl | older
      · rcases Table.mem_of_mem_applyAll rowMember with put | ⟨old, _⟩
        · cases covered.sessions _ put with
          | update _ old stored _ _ _ _ hashes =>
              rcases hashes with kept | own
              · rw [kept]
                exact inv.hashes all _ List.mem_cons_self old stored
              · exact own.2
          | insert _ _ _ _ own => exact own.2
        · exact inv.hashes all _ List.mem_cons_self row old
      · exact inv.hashes all state older row rowMember
    · intro all row member
      obtain ⟨fresh, each⟩ := covered.credits
      rcases Table.mem_of_mem_applyAll member with put | ⟨old, _⟩
      · cases each _ put with
        | update _ old stored id =>
            rw [id]
            exact inv.credits all old stored
        | insert _ _ _ _ drawn => exact drawn
      · exact inv.credits all row old
  keeps hold leaves := keeps_of_covered covered leaves

end Api

end SaasFoundation
