import SaasFoundation.Api.Verification

/-!
# Runs of the API

What is known about every reachable configuration, whatever requests were let
in and however their statements were interleaved.
-/

namespace SaasFoundation

open Relational Transaction Discipline

namespace Api

/-- A database before the first request: it satisfies the constraints of the
schema, and nothing is logged. -/
structure Begins (world : DbWorld) : Prop where
  sound : Sound world.db
  unlogged : world.commits = []

/-- The hashes of the sessions and the identifiers of the balances came from
the sources later requests draw from. -/
structure FromSources (world : DbWorld) : Prop where
  hashes : ∀ row ∈ world.db.sessions,
    (Draw.randomBytes, row.hash) ∈ world.drawn
  credits : ∀ row ∈ world.db.credits, (Draw.creditId, row.id) ∈ world.drawn

theorem Begins.invariant {environment : Environment} {drawn : Prop}
    {world : DbWorld} (begins : Begins world)
    (sources : drawn → FromSources world) :
    Invariant environment drawn world where
  sound := begins.sound
  history := by
    rw [begins.unlogged]
    trivial
  hashes all state member row rowMember := by
    simp only [World.states, begins.unlogged, List.map_nil,
      List.mem_singleton] at member
    subst member
    exact (sources all).hashes row rowMember
  credits all row member := (sources all).credits row member

/-- What a run from `initial` to `config` has established. -/
structure Run (environment : Environment) (drawn : Prop) (initial : Db)
    (config : DbConfig) : Prop where
  sound : Sound config.world.db
  legal : Legal (fun commit earlier =>
      Effect environment.runtime drawn commit earlier ∧ Sound commit.before)
    config.world.commits
  leads : Leads initial config.world.commits config.world.db
  numbered : Numbered config.world config.threads
  answers : ∀ thread ∈ config.threads, ∀ reply,
    thread.program = .done reply → Answers reply thread.context config.world
  refuses : ∀ thread ∈ config.threads, ∀ failure,
    thread.program = .fail failure →
      Refuses drawn failure thread.context config.world

theorem Run.of_reachable {environment : Environment} {drawn : Prop}
    {admits : Request → Bool} {world : DbWorld} {config : DbConfig}
    (begins : Begins world) (sources : drawn → FromSources world)
    (reachable :
      (system environment admits).Reachable (.idle world) config) :
    Run environment drawn world.db config := by
  have invariant : Invariant environment drawn world := begins.invariant sources
  have holds : ∀ {config : DbConfig},
      (system environment admits).Reachable (.idle world) config →
      (discipline environment drawn).Holds (mayDraw environment) config :=
    fun reachable =>
      holds_of_reachable (verifies environment drawn admits) invariant reachable
  refine ⟨(holds reachable).inv.sound,
    (holds reachable).inv.history.and fun commit logged => ?_,
    reachable.leads begins.unlogged, reachable.numbered begins.unlogged, ?_, ?_⟩
  · obtain ⟨earlier, reached, same⟩ := reachable.before begins.unlogged logged
    exact same ▸ (holds reached).inv.sound
  · intro thread member reply done
    have verified := (holds reachable).threads thread member
    rw [done] at verified
    exact verified
  · intro thread member failure failed
    have verified := (holds reachable).threads thread member
    rw [failed] at verified
    exact verified

end Api

namespace Sample

/-- Nothing is hashed; a token is the number it was drawn as. -/
def runtime : Runtime where
  toLowerCase := id
  lower := id
  digest := id
  bcryptCompare password stored := password == stored
  bcryptHash password _ := password
  decode _ := none
  verify _ _ := none
  sign _ _ := ""
  deliver _ := true

def environment : Environment where
  runtime
  config := ⟨true, true⟩
  guessable _ := false

/-- An active account whose password is its address. -/
def user (id roleId : Nat) (email : String) : UserRow :=
  { id, email := some email, password := some email, provider := "email"
    socialId := none, firstName := none, lastName := none, username := none
    phone := none, accountType := .user, photoId := none
    roleId := some roleId, statusId := some StatusId.active
    createdAt := 0, updatedAt := 0, deletedAt := none }

/-- Accounts 1 and 3 are administrators, account 2 is not. -/
def world : DbWorld where
  db :=
    { roles := (∅ : Table RoleRow).put ⟨1, "Admin", ""⟩ |>.put ⟨2, "User", ""⟩
      files := ∅
      users := (∅ : Table UserRow).put (user 1 RoleId.admin "a")
        |>.put (user 2 RoleId.user "b") |>.put (user 3 RoleId.admin "c")
      sessions := ∅, workspaces := ∅, members := ∅, invitations := ∅
      currencies := (∅ : Table CurrencyRow).put ⟨1, "credit", "c"⟩
      credits := ∅, entries := ∅, activities := ∅ }
  clock := 5
  commits := []
  drawn := []
  nextTid := 0

theorem begins : Api.Begins world := by
  refine ⟨?_, rfl⟩
  constructor <;> exact fun _ member => absurd member (Table.not_mem_empty _)

theorem fromSources : Api.FromSources world :=
  ⟨fun _ member => absurd member (Table.not_mem_empty _),
    fun _ member => absurd member (Table.not_mem_empty _)⟩

/-- The requests and steps of a schedule, one request after the other;
`value` is drawn wherever the request draws. -/
def serve (request : Request) (value steps : Nat) : List (Choice Request) :=
  .arrive request :: List.replicate steps (.advance 0 value)

/-- Where a schedule leads. -/
def after (admits : Request → Bool) (choices : List (Choice Request)) :
    DbConfig :=
  (Api.system environment admits).after choices (.idle world)

theorem reachable (admits : Request → Bool) (choices : List (Choice Request)) :
    (Api.system environment admits).Reachable (.idle world)
      (after admits choices) :=
  System.reachable_after _ choices _

end Sample

end SaasFoundation
