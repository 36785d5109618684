import Mathlib.Data.Set.Finite.Basic
import SaasFoundation.Accounting.Ledger

/-!
# Idempotency keys

The first adjustment that commits under a key settles every other request
with this key: requests for the same adjustment answer it again, requests for
another one fail.  Neither kind writes balances or entries.
-/

namespace SaasFoundation

open Relational Transaction Api

variable {runtime : Runtime} {drawn : Prop} {commit : DbCommit}
  {earlier : List DbCommit}

/-- The same account, currency, number, reason and operator. -/
structure SamePayload (body : CreditAdjustmentDto) (actor : Nat)
    (other : CreditAdjustmentDto) (operator : Nat) : Prop where
  account : other.accountId = body.accountId
  currency : other.currencyId = body.currencyId
  amount : other.amount.toUnits = body.amount.toUnits
  reason : other.reason = body.reason
  operator : operator = actor

/-- The commit changes a balance or adds an entry. -/
def Books (commit : DbCommit) : Prop :=
  commit.writes.credits ≠ [] ∨ commit.writes.entries ≠ []

theorem SamePayload.unstorable {body other : CreditAdjustmentDto}
    {actor operator : Nat} (same : SamePayload body actor other operator)
    (unstorable : Unstorable other) : Unstorable body := by
  unfold Unstorable at *
  rwa [Amount.isZeroText_iff, ← same.account, ← same.currency, ← same.amount,
    ← same.reason, ← Amount.isZeroText_iff]

theorem SamePayload.records {db : Db} {body other : CreditAdjustmentDto}
    {actor operator : Nat} {entry : EntryRow}
    (same : SamePayload body actor other operator)
    (key : other.idempotencyKey = body.idempotencyKey)
    (records : Records db body actor entry) :
    Records db other operator entry where
  stored := records.stored
  key := records.key.trans key.symm
  credit := by
    rw [same.account, same.currency]
    exact records.credit
  amount := records.amount.trans same.amount.symm
  reason := records.reason.trans same.reason.symm
  operator := records.operator.trans same.operator.symm

/-- A key records one adjustment. -/
theorem Records.samePayload {db : Db} (sound : Sound db)
    {body other : CreditAdjustmentDto} {actor operator : Nat}
    {left right : EntryRow} (records : Records db body actor left)
    (again : Records db other operator right)
    (key : other.idempotencyKey = body.idempotencyKey) :
    SamePayload body actor other operator := by
  have entries : right = left :=
    sound.keyUnique right again.stored left records.stored
      ((again.key.trans key).trans records.key.symm)
  subst entries
  obtain ⟨credit, member, id, account, currency⟩ := records.credit
  obtain ⟨credit', member', id', account', currency'⟩ := again.credit
  have credits : credit' = credit :=
    Table.eq_of_key member' member (id'.trans id.symm)
  subst credits
  exact ⟨account'.symm.trans account, currency'.symm.trans currency,
    again.amount.symm.trans records.amount,
    again.reason.symm.trans records.reason,
    again.operator.symm.trans records.operator⟩

/-- Every committed adjustment is still recorded. -/
def Recorded (commits : List DbCommit) (db : Db) : Prop :=
  ∀ commit ∈ commits, ∀ body actor, commit.request = .adjust body actor →
    ¬Unstorable body ∧ ∃ entry, Records db body actor entry

theorem adjusted_of_effect (effect : Effect runtime drawn commit earlier)
    {body : CreditAdjustmentDto} {actor : Nat}
    (request : commit.request = .adjust body actor) :
    Replayed commit body actor ∨ ∃ credit updated entry,
      Applied commit body actor credit updated entry := by
  unfold Effect at effect
  rw [request] at effect
  exact effect.2

theorem records_of_effect (effect : Effect runtime drawn commit earlier)
    {body : CreditAdjustmentDto} {actor : Nat} {entry : EntryRow}
    (records : Records commit.before body actor entry) :
    Records commit.after body actor entry := by
  rcases booked_or_nothing effect with
    ⟨_, _, _, _, _, _, applied⟩ | ⟨credits, entries⟩
  · exact applied.records_kept records
  · exact ⟨entries ▸ records.stored, records.key, credits ▸ records.credit,
      records.amount, records.reason, records.operator⟩

theorem recorded_of_effect (effect : Effect runtime drawn commit earlier)
    (recorded : Recorded earlier commit.before) :
    Recorded (commit :: earlier) commit.after := by
  intro logged member body actor request
  rcases List.mem_cons.mp member with rfl | older
  · rcases adjusted_of_effect effect request with
      replayed | ⟨credit, updated, entry, applied⟩
    · obtain ⟨entry, records⟩ := replayed.recorded
      exact ⟨replayed.storable, entry, records_of_effect effect records⟩
    · exact ⟨applied.storable, entry, applied.records⟩
  · obtain ⟨storable, entry, records⟩ := recorded logged older body actor request
    exact ⟨storable, entry, records_of_effect effect records⟩

/-- What a commit finds when its key is in the log. -/
structure Repeats (body : CreditAdjustmentDto) (actor : Nat)
    (later : DbCommit) (other : CreditAdjustmentDto) (operator : Nat) :
    Prop where
  same : SamePayload body actor other operator
  credits : later.writes.credits = []
  entries : later.writes.entries = []

theorem repeats_of_effect (effect : Effect runtime drawn commit earlier)
    (sound : Sound commit.before) (recorded : Recorded earlier commit.before)
    {past : DbCommit} (older : past ∈ earlier)
    {body other : CreditAdjustmentDto} {actor operator : Nat}
    (request : past.request = .adjust body actor)
    (again : commit.request = .adjust other operator)
    (key : other.idempotencyKey = body.idempotencyKey) :
    Repeats body actor commit other operator := by
  obtain ⟨_, entry, records⟩ := recorded past older body actor request
  rcases adjusted_of_effect effect again with
    replayed | ⟨credit, updated, new, applied⟩
  · obtain ⟨known, repeated⟩ := replayed.recorded
    exact ⟨records.samePayload sound repeated key, replayed.credits,
      replayed.entries⟩
  · exact absurd (records.key.trans key.symm)
      (applied.freshKey entry records.stored)

/-- Of all commits with one key only the oldest can book. -/
def KeysOnce (commits : List DbCommit) : Prop :=
  commits.Pairwise fun later past => ∀ body actor other operator,
    past.request = .adjust body actor → later.request = .adjust other operator →
      other.idempotencyKey = body.idempotencyKey →
        Repeats body actor later other operator

theorem keysOnce_of_run {environment : Environment} {initial : Db}
    {config : DbConfig} (run : Run environment drawn initial config) :
    Recorded config.world.commits config.world.db ∧
      KeysOnce config.world.commits := by
  refine Leads.induction
    (motive := fun commits db => Recorded commits db ∧ KeysOnce commits)
    run.leads run.legal ⟨fun _ member => absurd member List.not_mem_nil, List.Pairwise.nil⟩ ?_
  intro commit earlier _ ⟨recorded, once⟩ ⟨effect, sound⟩
  refine ⟨recorded_of_effect effect recorded, List.pairwise_cons.mpr ⟨?_, once⟩⟩
  intro past older body actor other operator request again key
  exact repeats_of_effect effect sound recorded older request again key

/-- What a committed adjustment means for another request with its key. -/
structure Settled (commits : List DbCommit) (body : CreditAdjustmentDto)
    (actor : Nat) (thread : Thread Db Writes Lock Draw Failure Request Reply)
    (other : CreditAdjustmentDto) (operator : Nat) : Prop where
  replays : SamePayload body actor other operator →
    (∀ failure, thread.program ≠ .fail failure) ∧
      ∀ reply, thread.program = .done reply →
        ∃ balance, reply = .adjustment ⟨balance, true⟩
  conflicts : ¬SamePayload body actor other operator →
    (∀ reply, thread.program ≠ .done reply) ∧
      (∀ failure, thread.program = .fail failure → ¬Unstorable other →
        failure.status = 409) ∧
      ∀ logged ∈ commits, logged.tid ≠ thread.context.tid
  writes : ∀ logged ∈ commits, logged.tid = thread.context.tid →
    logged.writes.credits = [] ∧ logged.writes.entries = []

theorem settled_of_run {environment : Environment} {initial : Db}
    {config : DbConfig} (run : Run environment True initial config)
    (users : ∀ commit ∈ config.world.commits, commit.writes.users = [])
    {commit : DbCommit} {earlier : List DbCommit}
    (suffix : commit :: earlier <:+ config.world.commits)
    {body other : CreditAdjustmentDto} {actor operator : Nat}
    (request : commit.request = .adjust body actor)
    {thread : Thread Db Writes Lock Draw Failure Request Reply}
    (member : thread ∈ config.threads)
    (served : thread.context.request = .adjust other operator)
    (key : other.idempotencyKey = body.idempotencyKey)
    (unseen : ∀ logged ∈ commit :: earlier, logged.tid ≠ thread.context.tid) :
    Settled config.world.commits body actor thread other operator := by
  obtain ⟨recorded, once⟩ := keysOnce_of_run run
  have logged := suffix.subset List.mem_cons_self
  obtain ⟨storable, entry, records⟩ := recorded commit logged body actor request
  -- What the request itself has committed comes later in the log.
  have repeats : ∀ own ∈ config.world.commits, own.tid = thread.context.tid →
      Repeats body actor own other operator := by
    intro own ownLogged tid
    have ownRequest : own.request = .adjust other operator :=
      (run.numbered.requests thread member own ownLogged tid).trans served
    obtain ⟨later, split⟩ := suffix
    rw [← split] at once ownLogged
    rcases List.mem_append.mp ownLogged with newer | older
    · exact (List.pairwise_append.mp once).2.2 own newer commit
        List.mem_cons_self body actor other operator request ownRequest key
    · exact absurd tid (unseen own older)
  have answered : ∀ reply, thread.program = .done reply →
      ∃ result, reply = .adjustment result ∧ result.replayed = true ∧
        SamePayload body actor other operator := by
    intro reply done
    have answers := run.answers thread member reply done
    unfold Answers at answers
    rw [served] at answers
    obtain ⟨result, same, own, ownLogged, tid, replayed, _⟩ := answers
    have repeated := repeats own ownLogged tid
    exact ⟨result, same, replayed.mpr repeated.entries, repeated.same⟩
  have refused : ∀ failure, thread.program = .fail failure →
      Refusal True other operator failure thread.context config.world := by
    intro failure failed
    have refuses := run.refuses thread member failure failed
    unfold Refuses at refuses
    rw [served] at refuses
    exact refuses.2
  refine ⟨fun same => ⟨fun failure failed => ?_, fun reply done => ?_⟩,
    fun different => ⟨fun reply done => ?_, fun failure failed fits => ?_,
      fun own ownLogged tid => ?_⟩, fun own ownLogged tid => ?_⟩
  · have mine := same.records key records
    obtain ⟨credit, stored, id, account, currency⟩ := mine.credit
    cases refused failure failed with
    | unstorable body => exact storable (same.unstorable body)
    | user status id named missing =>
        have present : (config.world.db.users.find id).isSome := by
          rcases named with rfl | rfl
          · exact account ▸ run.sound.creditAccount credit stored
          · exact mine.operator ▸ run.sound.entryOperator entry mine.stored
        rw [missing users] at present
        cases present
    | currency status missing =>
        have present := run.sound.creditCurrency credit stored
        rw [currency, missing] at present
        cases present
    | taken status taken stored takenKey different =>
        have rows : taken = entry := run.sound.keyUnique taken stored entry
          mine.stored (takenKey.trans mine.key.symm)
        exact different (rows ▸ mine)
    | first locked unused => exact unused entry mine.stored mine.key
    | undrawn initial => exact initial trivial
  · obtain ⟨result, rfl, replayed, _⟩ := answered reply done
    exact ⟨result.balance, by rw [← replayed]⟩
  · obtain ⟨_, _, _, same⟩ := answered reply done
    exact different same
  · cases refused failure failed with
    | unstorable body => exact absurd body fits
    | user status | currency status | taken status => exact status
    | first locked unused =>
        exact absurd (records.key.trans key.symm) (unused entry records.stored)
    | undrawn initial => exact absurd trivial initial
  · exact different (repeats own ownLogged tid).same
  · exact ⟨(repeats own ownLogged tid).credits,
      (repeats own ownLogged tid).entries⟩

/-- Sources that never run out, whatever callers can guess. -/
def Sequence (source : Draw) : Prop :=
  source ≠ .uuid ∧ source ≠ .roleId

instance (source : Draw) : Decidable (Sequence source) :=
  inferInstanceAs (Decidable (_ ∧ _))

private theorem drawsFrom_findCreditById (id : Nat) :
    (AccountCreditsService.findCreditById id).DrawsFrom Sequence := by
  intro found
  cases found <;> trivial

/-- Adjustments draw numbers from sequences only. -/
theorem drawsFrom_adjust (body : CreditAdjustmentDto) (actor : Nat) :
    (AccountCreditsService.adjust body actor).DrawsFrom Sequence := by
  unfold AccountCreditsService.adjust
  split
  · trivial
  · refine Program.DrawsFrom.mapError (.transaction ?_) _
    have findCredit : (AccountCreditsService.findCredit body.accountId
        body.currencyId).DrawsFrom Sequence := by
      intro found
      cases found <;> trivial
    refine .bind (.draw (by decide)) fun creditId => ?_
    refine .bind (.run _) fun _ => .bind findCredit fun credit => ?_
    refine .bind (.draw (by decide)) fun entryId => .bind (.run _) ?_
    intro inserted
    split
    · refine .bind (.run _) fun known => ?_
      split
      · trivial
      · exact .bind (drawsFrom_findCreditById _) fun _ => trivial
    · refine .bind (.run _) fun _ => ?_
      refine .bind (drawsFrom_findCreditById _) fun updated => ?_
      refine .bind (.bind (.draw (by decide)) fun _ => .run _) fun _ => trivial

/-- There is always a number a sequence has not returned. -/
private theorem supply (environment : Environment) (source : Draw)
    (sequence : Sequence source) (used : List (Draw × Nat)) :
    ∃ value, mayDraw environment source value = true ∧
      (source, value) ∉ used := by
  obtain ⟨value, unused⟩ :=
    Infinite.exists_notMem_finset (used.map Prod.snd).toFinset
  refine ⟨value, ?_, fun member => unused ?_⟩
  · cases source with
    | uuid => exact absurd rfl sequence.1
    | roleId => exact absurd rfl sequence.2
    | _ => rfl
  · rw [List.mem_toFinset]
    exact List.mem_map_of_mem member

def Request.isAdjust : Request → Bool
  | .adjust _ _ => true
  | _ => false

theorem Request.isAdjust_iff {request : Request} :
    request.isAdjust = true ↔ ∃ body actor, request = .adjust body actor := by
  cases request <;> simp [Request.isAdjust]

/-- Exactly once: of all adjustments with one key at most one is applied, and
it decides how every other one ends, whatever their interleaving. -/
theorem settled_of_reachable (environment : Environment)
    (admits : Request → Bool) (world : DbWorld) (config : DbConfig)
    (adjusts : ∀ request, admits request = true →
      ∃ body actor, request = .adjust body actor)
    (begins : Begins world) (sources : FromSources world)
    (reachable :
      (system environment admits).Reachable (.idle world) config) :
    KeysOnce config.world.commits ∧
    (∀ commit earlier, commit :: earlier <:+ config.world.commits →
      ∀ body actor, commit.request = .adjust body actor →
      ∀ thread ∈ config.threads, ∀ other operator,
        thread.context.request = .adjust other operator →
        other.idempotencyKey = body.idempotencyKey →
        (∀ logged ∈ commit :: earlier, logged.tid ≠ thread.context.tid) →
          Settled config.world.commits body actor thread other operator) ∧
    Leads world.db config.world.commits config.world.db ∧
    (∀ thread, config.threads = [thread] → ∃ final ended,
      (system environment admits).Reachable (.idle world) final ∧
      config.world.commits <:+ final.world.commits ∧
      final.threads = [ended] ∧ ended.context.tid = thread.context.tid ∧
      ended.context.request = thread.context.request ∧
      ((∃ reply, ended.program = .done reply) ∨
        ∃ failure, ended.program = .fail failure)) := by
  have run : Run environment True world.db config :=
    .of_reachable begins (fun _ => sources) reachable
  have lets : ∀ state request,
      (system environment admits).mayStart state request = true →
        ∃ body actor, request = .adjust body actor := by
    intro state request starts
    simp only [system, Bool.and_eq_true] at starts
    exact adjusts request starts.1
  have users : ∀ commit ∈ config.world.commits, commit.writes.users = [] := by
    intro commit logged
    obtain ⟨body, actor, request⟩ :=
      (reachable.admitted begins.unlogged lets).2 commit logged
    obtain ⟨_, _, effect, _⟩ := run.legal.mem logged
    unfold Effect at effect
    rw [request] at effect
    exact effect.1.users
  refine ⟨(keysOnce_of_run run).2, ?_, run.leads, ?_⟩
  · intro commit earlier suffix body actor request thread member other operator
      served key unseen
    exact settled_of_run run users suffix request member served key unseen
  · intro thread alone
    have draws : thread.program.DrawsFrom Sequence := by
      refine reachable.each
        (motive := fun thread => thread.program.DrawsFrom Sequence)
        ?_ ?_ thread (by simp [alone])
      · intro state tid request now starts
        obtain ⟨body, actor, rfl⟩ := lets state request starts
        exact (drawsFrom_adjust body actor).bind fun _ => trivial
      · exact fun _ _ _ _ _ _ draws advanced =>
          Thread.advance_drawsFrom draws advanced
    obtain ⟨final, ended, reached, rest⟩ :=
      System.completes (system environment admits) (supply environment)
        config.world thread draws
    have here : config = ⟨config.world, [thread]⟩ := by
      rw [← alone]
    rw [← here] at reached
    exact ⟨final, ended, reachable.trans reached, reached.log, rest⟩

theorem settled_of_reachable_replayed :
    ∃ config : DbConfig, config.world.commits.length = 2 ∧
      config.world.db.credits.rows.map (·.balance.units) = [15000] ∧
      KeysOnce config.world.commits :=
  ⟨Sample.after Request.isAdjust
      (Sample.serve Sample.credit 9 12 ++ Sample.serve Sample.credit 10 9),
    by decide, by decide,
    (settled_of_reachable _ _ _ _
      (fun _ admitted => Request.isAdjust_iff.mp admitted) Sample.begins
      Sample.fromSources (Sample.reachable _ _)).1⟩

namespace Sample
/-- The key again, for nothing. -/
def zeroCredit : Request :=
  .adjust ⟨2, 1, ⟨"0", by decide⟩, 5, "r"⟩ 1

def zeroSchedule : List (Choice Request) :=
  serve credit 9 12 ++ serve zeroCredit 0 0

end Sample

/-- A request with a used key and the amount zero fails, but not with 409. -/
theorem zero_amount_not_conflict :
    ¬∀ (environment : Environment) (admits : Request → Bool) (world : DbWorld)
      (config : DbConfig),
      (∀ request, admits request = true →
        ∃ body actor, request = .adjust body actor) →
      Begins world → FromSources world →
      (system environment admits).Reachable (.idle world) config →
      ∀ commit ∈ config.world.commits, ∀ body actor,
        commit.request = .adjust body actor →
      ∀ thread ∈ config.threads, ∀ other operator,
        thread.context.request = .adjust other operator →
        other.idempotencyKey = body.idempotencyKey →
        commit.tid ≠ thread.context.tid →
        ¬SamePayload body actor other operator →
        ∀ failure, thread.program = .fail failure → failure.status = 409 := by
  intro claimed
  let config := Sample.after Request.isAdjust Sample.zeroSchedule
  have refused : ∃ commit ∈ config.world.commits,
      commit.request = Sample.credit ∧ ∃ thread ∈ config.threads,
        thread.context.request = Sample.zeroCredit ∧
        commit.tid ≠ thread.context.tid ∧
        thread.program = .fail (.badRequest "Adjustment must be nonzero") :=
    ⟨_, List.mem_cons_self, rfl, _, List.mem_cons_self, rfl, by decide, rfl⟩
  obtain ⟨commit, logged, request, thread, member, served, other, failed⟩ :=
    refused
  have status := claimed Sample.environment Request.isAdjust Sample.world config
    (fun _ admitted => Request.isAdjust_iff.mp admitted) Sample.begins
    Sample.fromSources (Sample.reachable _ _) commit logged _ _ request thread
    member _ _ served rfl other
    (fun same => absurd same.amount (by decide)) _ failed
  exact absurd status (by decide)

end SaasFoundation
