import SaasFoundation.Relational.Latest
import SaasFoundation.Relational.Machine
import SaasFoundation.Utils.Record
import SaasFoundation.Utils.Text

/-!
# `shared/crud/list-page.ts`

`switchMap` listens to the request issued last.  A request that cannot be
encoded throws where it is issued and ends the subscription of the page.
-/

namespace SaasFoundation

open Relational Latest

def PAGE_SIZE_DEFAULT : Nat := 25
def SEARCH_MAX_LENGTH : Nat := 200

/-- A text that may end in half of a surrogate pair. -/
inductive SearchText where
  | whole (text : String)
  | torn
  deriving DecidableEq, Repr

structure ListParams where
  pageSize : Nat
  page : Nat
  orderBy : Option String := none
  direction : Option String := none
  select : Option String := none
  filter : Option SearchText := none
  deriving DecidableEq, Repr

def defaultListParams : ListParams where
  pageSize := PAGE_SIZE_DEFAULT
  page := 1
  orderBy := some "id"
  direction := some "desc"

/-- `slice(0, units)`; `none` when the cut is inside of a surrogate pair. -/
def sliceUnits : Nat → List Char → Option (List Char)
  | _, [] => some []
  | 0, _ => some []
  | units + 1, char :: rest =>
      if char.toNat < 0x10000 then (sliceUnits units rest).map (char :: ·)
      else
        match units with
        | 0 => none
        | units + 1 => (sliceUnits units rest).map (char :: ·)

def likeOrFilter (term : String) : SearchText :=
  match sliceUnits SEARCH_MAX_LENGTH (Text.trim term).toList with
  | some text => .whole (.ofList text)
  | none => .torn

inductive ParamValue where
  | number (value : Nat)
  | text (value : SearchText)
  deriving DecidableEq, Repr

structure ListRequest where
  url : String
  params : List (String × ParamValue)
  deriving DecidableEq, Repr

namespace HttpService

def toParams (param : ListParams) : List (String × ParamValue) :=
  let params :=
    [("page", .number param.page), ("page_size", .number param.pageSize)]
  let params :=
    match param.direction.filter (· ≠ "") with
    | some direction =>
        Record.define "direction"
          (.text (.whole (if direction = "desc" then "desc" else "asc")))
          (Record.define "order_by"
            (.text (.whole (param.orderBy.getD "id"))) params)
    | none => params
  let params :=
    match param.filter.filter (· ≠ .whole "") with
    | some filter => Record.define "search" (.text filter) params
    | none => params
  match param.select.filter (· ≠ "") with
  | some select => Record.define "select" (.text (.whole select)) params
  | none => params

/-- `encodeURIComponent` throws on half of a surrogate pair. -/
def encodable (params : List (String × ParamValue)) : Bool :=
  params.all fun param => param.2 ≠ .text .torn

/-- The request of a list; `none` when building it throws. -/
def list (url : String) (param : ListParams) : Option ListRequest :=
  if encodable (toParams param) then
    some { url := "/api/v1/admin/" ++ url, params := toParams param }
  else none

end HttpService

/-- `ListPageOptions`, with the identifier of a row if it has one. -/
structure ListPageOptions (ρ : Type) where
  endpoint : String
  dialog : Bool
  canDelete : Option Bool
  id : ρ → Option Nat

/-- The answer to a list request. -/
inductive ListAnswer (ρ : Type) where
  | response (list : Option (List ρ)) (count : Option Nat)
  | failure
  deriving DecidableEq, Repr

structure ListPage (ρ : Type) where
  rows : List ρ := []
  count : Nat := 0
  loading : Bool := false
  error : Option String := none
  search : String := ""
  params : ListParams := defaultListParams
  /-- The request `switchMap` is subscribed to. -/
  current : Option Nat := none
  /-- `reload$` has its subscriber. -/
  subscribed : Bool := true
  deriving DecidableEq, Repr

inductive Prompt where
  | dialog
  | confirmDelete (id : Nat)
  deriving DecidableEq, Repr

/-- The page with what it waits for. -/
structure ListScreen (ρ : Type) where
  page : ListPage ρ := {}
  issued : List ListRequest := []
  answered : List Nat := []
  prompts : List (Nat × Prompt) := []
  deletes : List (Nat × Nat) := []
  nextPrompt : Nat := 0
  nextDelete : Nat := 0
  /-- A list request could not be built. -/
  crashed : Bool := false
  log : List (Happening (ListAnswer ρ)) := []
  deriving DecidableEq, Repr

inductive ListEvent (ρ : Type) where
  | load
  | typeSearch (text : String)
  | applySearch
  | sortChange (active direction : String)
  | pageChange (pageIndex pageSize : Nat)
  | openDialog
  | remove (row : ρ)
  | afterClosed (prompt : Nat) (result : Bool)
  | deleted (call : Nat) (success : Bool)
  | answer (number : Nat) (answer : ListAnswer ρ)
  | destroy
  deriving DecidableEq, Repr

variable {ρ : Type}

namespace ListAnswer

def rows : ListAnswer ρ → List ρ
  | .response list _ => list.getD []
  | .failure => []

def count : ListAnswer ρ → Nat
  | .response _ count => count.getD 0
  | .failure => 0

def error (translate : String → String) : ListAnswer ρ → Option String
  | .response _ _ => none
  | .failure => some (translate "list.loadError")

end ListAnswer

namespace ListPage

/-- `tap`. -/
def begin (page : ListPage ρ) : ListPage ρ :=
  { page with loading := true, error := none }

/-- `catchError` and the subscriber. -/
def hear (translate : String → String) (answer : ListAnswer ρ)
    (page : ListPage ρ) : ListPage ρ :=
  let page := { page with current := none }
  match answer with
  | .response list count =>
      { page with
        rows := list.getD []
        count := count.getD 0
        loading := false }
  | .failure =>
      { page with
        rows := []
        count := 0
        loading := false
        error := some (translate "list.loadError") }

end ListPage

namespace ListScreen

section Actions

variable (options : ListPageOptions ρ) (translate : String → String)

/-- `reload$.next()`. -/
def load (screen : ListScreen ρ) : ListScreen ρ :=
  if screen.page.subscribed then
    match HttpService.list options.endpoint screen.page.params with
    | some request =>
        { screen with
          page :=
            { screen.page.begin with current := some screen.issued.length }
          issued := screen.issued ++ [request]
          log := screen.log ++ [.issued] }
    | none =>
        { screen with
          page :=
            { screen.page.begin with current := none, subscribed := false }
          crashed := true
          log := screen.log ++ [.closed] }
  else screen

def setParams (params : ListParams) (screen : ListScreen ρ) : ListScreen ρ :=
  { screen with page := { screen.page with params } }

def applySearch (screen : ListScreen ρ) : ListScreen ρ :=
  (screen.setParams
    { screen.page.params with
      page := 1
      filter := some (likeOrFilter screen.page.search) }).load options

def sortChange (active direction : String) (screen : ListScreen ρ) :
    ListScreen ρ :=
  (screen.setParams
    { screen.page.params with
      orderBy := some active
      direction := some direction
      page := 1 }).load options

def pageChange (pageIndex pageSize : Nat) (screen : ListScreen ρ) :
    ListScreen ρ :=
  (screen.setParams
    { screen.page.params with
      pageSize
      page := pageIndex + 1 }).load options

def prompt (prompt : Prompt) (screen : ListScreen ρ) : ListScreen ρ :=
  { screen with
    prompts := screen.prompts ++ [(screen.nextPrompt, prompt)]
    nextPrompt := screen.nextPrompt + 1 }

def openDialog (screen : ListScreen ρ) : ListScreen ρ :=
  if options.dialog then screen.prompt .dialog else screen

def remove (row : ρ) (screen : ListScreen ρ) : ListScreen ρ :=
  match options.id row with
  | some id =>
      if options.canDelete = some false then screen
      else screen.prompt (.confirmDelete id)
  | none => screen

/-- What the subscriber of `afterClosed` does with a result. -/
def closed (result : Bool) (screen : ListScreen ρ) : Prompt → ListScreen ρ
  | .dialog => if result then screen.load options else screen
  | .confirmDelete id =>
      if result then
        { screen with
          deletes := screen.deletes ++ [(screen.nextDelete, id)]
          nextDelete := screen.nextDelete + 1 }
      else screen

/-- The view is destroyed: `takeUntilDestroyed` drops every subscription. -/
def destroy (screen : ListScreen ρ) : ListScreen ρ :=
  { screen with
    page := { screen.page with current := none, subscribed := false }
    prompts := []
    deletes := []
    log := screen.log ++ [.closed] }

/-- A response arrives, to whatever request it is. -/
def answer (number : Nat) (answer : ListAnswer ρ) (screen : ListScreen ρ) :
    ListScreen ρ :=
  { screen with
    page :=
      if screen.page.current = some number then
        screen.page.hear translate answer
      else screen.page
    answered := number :: screen.answered
    log := screen.log ++ [.answered number answer] }

/-- The effect of an event; `none` when it cannot happen. -/
def step (event : ListEvent ρ) (screen : ListScreen ρ) :
    Option (ListScreen ρ) :=
  match event with
  | .load => some (screen.load options)
  | .typeSearch text =>
      some { screen with page := { screen.page with search := text } }
  | .applySearch => some (screen.applySearch options)
  | .sortChange active direction =>
      some (screen.sortChange options active direction)
  | .pageChange pageIndex pageSize =>
      some (screen.pageChange options pageIndex pageSize)
  | .openDialog => some (screen.openDialog options)
  | .remove row => some (screen.remove options row)
  | .afterClosed number result => do
      let prompt ← screen.prompts.lookup number
      some
        ({ screen with
          prompts := screen.prompts.filter (·.1 ≠ number) }.closed options
            result prompt)
  | .deleted call success => do
      let _ ← screen.deletes.lookup call
      let screen :=
        { screen with deletes := screen.deletes.filter (·.1 ≠ call) }
      some (if success then screen.load options else screen)
  | .answer number answer =>
      if number < screen.issued.length ∧ number ∉ screen.answered then
        some (screen.answer translate number answer)
      else none
  | .destroy => some screen.destroy

def machine : Machine (ListScreen ρ) (ListEvent ρ) where
  step := step options translate

end Actions

section Display

variable (translate : String → String)

/-- The rows and the count are those of the newest answer that was heard, and
so is the error once nothing is loading. -/
def Displayed (log : List (Happening (ListAnswer ρ))) (page : ListPage ρ) :
    Prop :=
  (∃ number answer, Newest log number answer ∧ page.rows = answer.rows ∧
      page.count = answer.count ∧
        (page.loading = false → page.error = answer.error translate)) ∨
    (∀ number answer, ¬Heard log number answer) ∧ page.rows = [] ∧
      page.count = 0 ∧ page.error = none

/-- The display against everything that was issued and answered. -/
structure LatestShown (screen : ListScreen ρ) : Prop where
  displayed : Displayed translate screen.log screen.page
  cleared : screen.page.loading = true → screen.page.error = none
  loading : screen.crashed = false →
    (screen.page.loading = true ↔ ∃ number, Unanswered screen.log number)

/-- The page follows its requests. -/
structure Follows (screen : ListScreen ρ) : Prop where
  issued : screen.issued.length = issuedCount screen.log
  numbered : Numbered screen.log
  answered : ∀ number answer,
    .answered number answer ∈ screen.log → number ∈ screen.answered
  subscribed : screen.page.subscribed = true ↔ .closed ∉ screen.log
  current : ∀ number, screen.page.current = some number ↔
    Unanswered screen.log number ∧ .closed ∉ screen.log
  waits : ∀ number, screen.page.current = some number →
    screen.page.loading = true
  shown : LatestShown translate screen

end Display

section Runs

variable {options : ListPageOptions ρ} {translate : String → String}
  {screen : ListScreen ρ}

theorem follows_start : Follows translate ({} : ListScreen ρ) where
  issued := rfl
  numbered := numbered_nil
  answered _ _ member := absurd member List.not_mem_nil
  subscribed := by simp
  current number := by
    constructor
    · exact nofun
    · exact fun ⟨⟨latest, _⟩, _⟩ => nomatch latest
  waits _ := nofun
  shown := by
    refine ⟨.inr ⟨fun _ _ => not_heard_nil, rfl, rfl, rfl⟩, nofun, fun _ => ?_⟩
    constructor
    · exact nofun
    · exact fun ⟨number, latest, _⟩ => nomatch latest

/-- Nothing that is not heard changes what is displayed, but for the error
that goes when the page begins to load. -/
theorem Displayed.concat {log : List (Happening (ListAnswer ρ))}
    {page later : ListPage ρ} {happening : Happening (ListAnswer ρ)}
    (displayed : Displayed translate log page)
    (unheard : ¬∃ number answer, happening = .answered number answer ∧
      issuedCount log = number + 1 ∧ .closed ∉ log)
    (rows : later.rows = page.rows) (count : later.count = page.count)
    (error : later.error = none ∧ later.loading = true ∨
      later.error = page.error ∧ later.loading = page.loading) :
    Displayed translate (log ++ [happening]) later := by
  rcases displayed with
    ⟨number, answer, newest, sameRows, sameCount, sameError⟩ |
      ⟨silent, noRows, noCount, noError⟩
  · refine .inl ⟨number, answer, (newest_concat_of_unheard unheard).mpr newest,
      rows.trans sameRows, count.trans sameCount, fun still => ?_⟩
    rcases error with ⟨-, loading⟩ | ⟨same, loading⟩
    · exact nomatch loading.symm.trans still
    · exact same.trans (sameError (loading.symm.trans still))
  · refine .inr ⟨fun number answer heard => ?_, rows.trans noRows,
      count.trans noCount, ?_⟩
    · rcases heard_concat.mp heard with before | ⟨rfl, now⟩
      · exact silent number answer before
      · exact unheard ⟨number, answer, rfl, now⟩
    · rcases error with ⟨none, -⟩ | ⟨same, -⟩
      · exact none
      · exact same.trans noError

theorem follows_load (follows : Follows translate screen) :
    Follows translate (screen.load options) := by
  unfold load
  by_cases subscribed : screen.page.subscribed = true
  · rw [if_pos subscribed]
    have listening := follows.subscribed.mp subscribed
    cases HttpService.list options.endpoint screen.page.params with
    | some request =>
        have pending (number : Nat) :
            Unanswered (screen.log ++ [.issued]) number ↔
              number = screen.issued.length := by
          rw [follows.issued]
          exact unanswered_concat_issued follows.numbered
        have heard : (Happening.closed : Happening (ListAnswer ρ)) ∉
            screen.log ++ [.issued] := by
          simpa using listening
        constructor
        · simp [follows.issued]
        · exact follows.numbered.concat fun _ _ same => nomatch same
        · exact fun number answer member => follows.answered number answer
            (by simpa using member)
        · exact ⟨fun _ => heard, fun _ => subscribed⟩
        · intro number
          rw [pending]
          constructor
          · exact fun same => ⟨(Option.some.inj same).symm, heard⟩
          · exact fun ⟨same, _⟩ => congrArg some same.symm
        · exact fun _ _ => rfl
        · refine ⟨?_, fun _ => rfl, fun _ => ⟨fun _ => ?_, fun _ => rfl⟩⟩
          · exact follows.shown.displayed.concat
              (fun ⟨_, _, same, _⟩ => nomatch same) rfl rfl (.inl ⟨rfl, rfl⟩)
          · exact ⟨_, (pending _).mpr rfl⟩
    | none =>
        constructor
        · simp [follows.issued]
        · exact follows.numbered.concat fun _ _ same => nomatch same
        · exact fun number answer member => follows.answered number answer
            (by simpa using member)
        · simp
        · simp
        · exact fun _ _ => rfl
        · refine ⟨?_, fun _ => rfl, nofun⟩
          exact follows.shown.displayed.concat
            (fun ⟨_, _, same, _⟩ => nomatch same) rfl rfl (.inl ⟨rfl, rfl⟩)
  · rw [if_neg subscribed]
    exact follows

theorem follows_destroy (follows : Follows translate screen) :
    Follows translate screen.destroy := by
  constructor
  · simp [destroy, follows.issued]
  · exact follows.numbered.concat fun _ _ same => nomatch same
  · exact fun number answer member => follows.answered number answer
      (by simpa [destroy] using member)
  · simp [destroy]
  · simp [destroy]
  · exact fun _ => nofun
  · refine ⟨?_, follows.shown.cleared, fun running => ?_⟩
    · exact follows.shown.displayed.concat
        (fun ⟨_, _, same, _⟩ => nomatch same) rfl rfl (.inr ⟨rfl, rfl⟩)
    · refine (follows.shown.loading running).trans ?_
      simp only [destroy, unanswered_concat_closed]

/-- A response to a superseded request changes nothing. -/
theorem page_answer_of_superseded (follows : Follows translate screen)
    {number : Nat} {given : ListAnswer ρ}
    (superseded : number + 1 ≠ issuedCount screen.log) :
    (screen.answer translate number given).page = screen.page := by
  refine if_neg fun current => superseded ?_
  exact ((follows.current number).mp current).1.latest.symm

theorem unanswered_of_new (follows : Follows translate screen)
    {number : Nat} (latest : issuedCount screen.log = number + 1)
    (new : number ∉ screen.answered) : Unanswered screen.log number := by
  refine ⟨latest, fun before answer after same => ?_⟩
  refine absurd (follows.answered number answer ?_) new
  rw [same]
  exact List.mem_append_right before List.mem_cons_self

theorem follows_answer (follows : Follows translate screen)
    {number : Nat} {given : ListAnswer ρ}
    (known : number < screen.issued.length)
    (new : number ∉ screen.answered) :
    Follows translate (screen.answer translate number given) := by
  have closed : (Happening.closed : Happening (ListAnswer ρ)) ∉
      screen.log ++ [.answered number given] ↔ .closed ∉ screen.log := by
    simp
  have answered : ∀ other answer, (.answered other answer) ∈
      screen.log ++ [.answered number given] →
        other ∈ number :: screen.answered := by
    intro other answer member
    rcases List.mem_append.mp member with earlier | last
    · exact .tail _ (follows.answered other answer earlier)
    · cases List.mem_singleton.mp last
      exact List.mem_cons_self
  have base : screen.issued.length =
      issuedCount (screen.log ++ [.answered number given]) := by
    rw [issuedCount_concat_answered, follows.issued]
  have numbered : Numbered (screen.log ++ [.answered number given]) := by
    refine follows.numbered.concat fun other answer same => ?_
    cases same
    exact follows.issued ▸ known
  by_cases current : screen.page.current = some number
  · obtain ⟨pending, listening⟩ := (follows.current number).mp current
    have page : (screen.answer translate number given).page =
        screen.page.hear translate given := if_pos current
    have over_ (other : Nat) :
        ¬Unanswered (screen.log ++ [.answered number given]) other := by
      rw [unanswered_concat_answered]
      intro ⟨still, gone⟩
      have same : number = other := by
        have latest := still.latest
        rw [pending.latest] at latest
        omega
      exact listening (gone same)
    have done : (screen.page.hear translate given).current = none := by
      cases given with
      | response | failure => rfl
    have still : (screen.page.hear translate given).loading = false := by
      cases given with
      | response | failure => rfl
    refine ⟨base, numbered, answered, ?_, fun other => ?_, fun other => ?_, ?_⟩
    · rw [page]
      cases given with
      | response | failure => exact follows.subscribed.trans closed.symm
    · rw [page, done]
      constructor
      · exact nofun
      · exact fun ⟨still, _⟩ => absurd still (over_ other)
    · rw [page, done]
      exact nofun
    · constructor
      · refine .inl ⟨number, given, newest_concat pending.latest listening, ?_⟩
        rw [page]
        cases given with
        | response list count =>
            have cleared := follows.shown.cleared (follows.waits number current)
            exact ⟨rfl, rfl, fun _ => cleared⟩
        | failure => exact ⟨rfl, rfl, fun _ => rfl⟩
      · rw [page, still]
        exact nofun
      · rw [page, still]
        exact fun _ => ⟨nofun, fun ⟨other, waiting⟩ =>
          absurd waiting (over_ other)⟩
  · have unheard : ¬∃ other answer,
        (Happening.answered number given) = .answered other answer ∧
          issuedCount screen.log = other + 1 ∧ .closed ∉ screen.log := by
      rintro ⟨other, answer, same, latest, listening⟩
      cases same
      exact current ((follows.current number).mpr
        ⟨unanswered_of_new follows latest new, listening⟩)
    have page : (screen.answer translate number given).page = screen.page :=
      if_neg current
    have still (other : Nat) :
        Unanswered (screen.log ++ [.answered number given]) other ↔
          Unanswered screen.log other := by
      rw [unanswered_concat_answered, and_iff_left_iff_imp]
      rintro pending rfl
      by_contra listening
      exact current ((follows.current number).mpr ⟨pending, listening⟩)
    refine ⟨base, numbered, answered, ?_, fun other => ?_, ?_, ?_⟩
    · rw [page]
      exact follows.subscribed.trans closed.symm
    · rw [page, follows.current, ← still, ← closed]
      rfl
    · rw [page]
      exact follows.waits
    · refine ⟨?_, ?_, fun running => ?_⟩
      · rw [page]
        exact follows.shown.displayed.concat unheard rfl rfl (.inr ⟨rfl, rfl⟩)
      · rw [page]
        exact follows.shown.cleared
      · rw [page, follows.shown.loading running]
        exact exists_congr fun other => (still other).symm

/-- Search text, parameters, dialogs and deletions are not displayed. -/
theorem Follows.aside (follows : Follows translate screen) (search : String)
    (params : ListParams) (prompts : List (Nat × Prompt))
    (deletes : List (Nat × Nat)) (nextPrompt nextDelete : Nat) :
    Follows translate
      { screen with
        page := { screen.page with search, params }
        prompts, deletes, nextPrompt, nextDelete } where
  issued := follows.issued
  numbered := follows.numbered
  answered := follows.answered
  subscribed := follows.subscribed
  current := follows.current
  waits := follows.waits
  shown :=
    { displayed := follows.shown.displayed
      cleared := follows.shown.cleared
      loading := follows.shown.loading }

theorem follows_prompt (follows : Follows translate screen) (prompt : Prompt) :
    Follows translate (screen.prompt prompt) :=
  follows.aside _ _ _ _ _ _

theorem follows_closed (follows : Follows translate screen) (result : Bool)
    (prompt : Prompt) :
    Follows translate (screen.closed options result prompt) := by
  unfold closed
  cases prompt with
  | dialog =>
      dsimp only
      split
      · exact follows_load follows
      · exact follows
  | confirmDelete id =>
      dsimp only
      split
      · exact follows.aside _ _ _ _ _ _
      · exact follows

theorem follows_step {event : ListEvent ρ} {after : ListScreen ρ}
    (follows : Follows translate screen)
    (stepped : step options translate event screen = some after) :
    Follows translate after := by
  cases event with
  | load =>
      cases stepped
      exact follows_load follows
  | typeSearch text =>
      cases stepped
      exact follows.aside text _ _ _ _ _
  | applySearch =>
      cases stepped
      exact follows_load (follows.aside _ _ _ _ _ _)
  | sortChange active direction =>
      cases stepped
      exact follows_load (follows.aside _ _ _ _ _ _)
  | pageChange pageIndex pageSize =>
      cases stepped
      exact follows_load (follows.aside _ _ _ _ _ _)
  | openDialog =>
      cases stepped
      unfold openDialog
      split
      · exact follows_prompt follows _
      · exact follows
  | remove row =>
      cases stepped
      unfold remove
      cases options.id row with
      | none => exact follows
      | some id =>
          dsimp only
          split
          · exact follows
          · exact follows_prompt follows _
  | afterClosed number result =>
      obtain ⟨prompt, -, same⟩ := Option.bind_eq_some_iff.mp stepped
      cases same
      exact follows_closed (follows.aside _ _ _ _ _ _) result prompt
  | deleted call success =>
      obtain ⟨id, -, same⟩ := Option.bind_eq_some_iff.mp stepped
      cases same
      split
      · exact follows_load (follows.aside _ _ _ _ _ _)
      · exact follows.aside _ _ _ _ _ _
  | answer number given =>
      obtain ⟨⟨known, new⟩, same⟩ := Option.ite_none_right_eq_some.mp stepped
      cases same
      exact follows_answer follows known new
  | destroy =>
      cases stepped
      exact follows_destroy follows

theorem follows_of_reachable
    (reachable : (machine options translate).Reachable {} screen) :
    Follows translate screen :=
  reachable.invariant follows_start
    fun _ _ _ follows stepped => follows_step follows stepped

/-- Whatever the order of actions and answers, the page shows the newest
answer that was heard, answers to superseded requests change nothing, and it
loads exactly while the latest request is unanswered. -/
theorem latest_shown (options : ListPageOptions ρ)
    (translate : String → String) (screen : ListScreen ρ)
    (reachable : (machine options translate).Reachable {} screen) :
    LatestShown translate screen ∧
      ∀ number given after,
        step options translate (.answer number given) screen = some after →
          number + 1 ≠ issuedCount screen.log → after.page = screen.page := by
  have follows := follows_of_reachable reachable
  refine ⟨follows.shown, fun number given after stepped superseded => ?_⟩
  obtain ⟨-, same⟩ := Option.ite_none_right_eq_some.mp stepped
  cases same
  exact page_answer_of_superseded follows superseded

theorem list_of_torn {url : String} {param : ListParams}
    (torn : param.filter = some .torn) : HttpService.list url param = none := by
  have member : ("search", ParamValue.text .torn) ∈
      HttpService.toParams param := by
    unfold HttpService.toParams
    rw [torn]
    cases param.select.filter (· ≠ "") with
    | none => exact Record.mem_define
    | some select => exact Record.mem_define_of_ne (by decide) Record.mem_define
  have refused : HttpService.encodable (HttpService.toParams param) = false := by
    refine List.all_eq_false.mpr ⟨_, member, ?_⟩
    simp
  unfold HttpService.list
  rw [refused]
  rfl

/-- A search that is cut inside of a character leaves the page loading, and no
later action issues a request. -/
theorem load_of_torn (torn : screen.page.params.filter = some .torn)
    (subscribed : screen.page.subscribed = true) :
    (screen.load options).page.loading = true ∧
      (screen.load options).issued = screen.issued ∧
        (screen.load options).page.subscribed = false := by
  unfold load
  rw [if_pos subscribed, list_of_torn torn]
  exact ⟨rfl, rfl, rfl⟩

theorem issued_load : screen.issued <+: (screen.load options).issued := by
  unfold load
  split
  · cases HttpService.list options.endpoint screen.page.params with
    | some request => exact List.prefix_append _ _
    | none => exact List.prefix_refl _
  · exact List.prefix_refl _

theorem issued_setParams (params : ListParams) :
    screen.issued <+: ((screen.setParams params).load options).issued :=
  @issued_load ρ options (screen.setParams params)

theorem issued_closed (result : Bool) (prompt : Prompt) :
    screen.issued <+: (screen.closed options result prompt).issued := by
  unfold closed
  cases prompt with
  | dialog =>
      dsimp only
      split
      · exact issued_load
      · exact List.prefix_refl _
  | confirmDelete id =>
      dsimp only
      split
      · exact List.prefix_refl _
      · exact List.prefix_refl _

/-- A request keeps the parameters it was issued with, whatever becomes of
those of the page. -/
theorem issued_step {event : ListEvent ρ} {after : ListScreen ρ}
    (stepped : step options translate event screen = some after) :
    screen.issued <+: after.issued := by
  cases event with
  | load =>
      cases stepped
      exact issued_load
  | applySearch =>
      cases stepped
      unfold applySearch
      exact issued_setParams _
  | sortChange active direction =>
      cases stepped
      unfold sortChange
      exact issued_setParams _
  | pageChange pageIndex pageSize =>
      cases stepped
      unfold pageChange
      exact issued_setParams _
  | typeSearch | destroy =>
      cases stepped
      exact List.prefix_refl _
  | openDialog =>
      cases stepped
      unfold openDialog
      split
      · exact List.prefix_refl _
      · exact List.prefix_refl _
  | remove row =>
      cases stepped
      unfold remove
      cases options.id row with
      | none => exact List.prefix_refl _
      | some id =>
          dsimp only
          split
          · exact List.prefix_refl _
          · exact List.prefix_refl _
  | afterClosed number result =>
      obtain ⟨prompt, -, same⟩ := Option.bind_eq_some_iff.mp stepped
      cases same
      exact @issued_closed ρ options
        { screen with prompts := screen.prompts.filter (·.1 ≠ number) } result
        prompt
  | deleted call success =>
      obtain ⟨id, -, same⟩ := Option.bind_eq_some_iff.mp stepped
      cases same
      split
      · exact @issued_load ρ options
          { screen with deletes := screen.deletes.filter (·.1 ≠ call) }
      · exact List.prefix_refl _
  | answer number given =>
      obtain ⟨-, same⟩ := Option.ite_none_right_eq_some.mp stepped
      cases same
      exact List.prefix_refl _

end Runs

namespace Sample

def options : ListPageOptions Nat where
  endpoint := "regions"
  dialog := true
  canDelete := none
  id := some

/-- Two requests; the second is answered, the answer to the first is late. -/
def overtaken : List (ListEvent Nat) :=
  [.load, .pageChange 1 25, .answer 1 (.response (some [2]) (some 4)),
    .answer 0 .failure]

/-- A request that fails, and another attempt. -/
def retried : List (ListEvent Nat) :=
  [.load, .answer 0 .failure, .load]

/-- The screen at the end of a run. -/
def after (events : List (ListEvent Nat)) : ListScreen Nat :=
  (((machine options id).run events) {}).getD {}

theorem reachable {events : List (ListEvent Nat)}
    (ran : (((machine options id).run events) {}).isSome) :
    (machine options id).Reachable {} (after events) :=
  Machine.Reachable.of_run events ran

end Sample

theorem latest_shown_overtaken :
    LatestShown id (Sample.after Sample.overtaken) ∧
      ∀ number given later,
        step Sample.options id (.answer number given)
            (Sample.after Sample.overtaken) = some later →
          number + 1 ≠ issuedCount (Sample.after Sample.overtaken).log →
            later.page = (Sample.after Sample.overtaken).page :=
  latest_shown Sample.options id (Sample.after Sample.overtaken)
    (Sample.reachable (by decide +kernel))

/-- While the second attempt loads, the rows are those of the failure but its
error is gone. -/
theorem reload_clears_error :
    (machine Sample.options id).Reachable {} (Sample.after Sample.retried) ∧
      Newest (Sample.after Sample.retried).log 0 .failure ∧
        (Sample.after Sample.retried).page.error ≠
          (ListAnswer.failure : ListAnswer Nat).error id := by
  have log : (Sample.after Sample.retried).log =
      ([.issued] ++ [.answered 0 .failure]) ++ [.issued] := by
    decide +kernel
  refine ⟨Sample.reachable (by decide +kernel), ?_, by decide +kernel⟩
  rw [log, newest_concat_of_unheard fun ⟨_, _, same, _⟩ => nomatch same]
  exact newest_concat rfl (by simp)

end ListScreen

end SaasFoundation
