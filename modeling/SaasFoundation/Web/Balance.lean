import SaasFoundation.Web.Sessions
import SaasFoundation.Web.Standing

/-!
# The balance of `apiInterceptor`

How often a request is sent, refreshes the session and gives it up, and whether
every spinner that was shown is hidden again.
-/

namespace SaasFoundation

open Relational

namespace Web

/-- The interceptor adds the token and recovers from a 401. -/
def HttpRequest.guarded (http : HttpRequest) : Bool :=
  !http.passes && !http.publicAuth

/-- How often something was done for a request. -/
structure Tally where
  transmitted : Nat
  refreshed : Nat
  loggedOut : Nat
  shown : Nat
  hidden : Nat
  ended : Nat
  expired : Nat

namespace Tally

instance : Add Tally where
  add left right :=
    { transmitted := left.transmitted + right.transmitted
      refreshed := left.refreshed + right.refreshed
      loggedOut := left.loggedOut + right.loggedOut
      shown := left.shown + right.shown
      hidden := left.hidden + right.hidden
      ended := left.ended + right.ended
      expired := left.expired + right.expired }

theorem add_eq (left right : Tally) : left + right =
    { transmitted := left.transmitted + right.transmitted
      refreshed := left.refreshed + right.refreshed
      loggedOut := left.loggedOut + right.loggedOut
      shown := left.shown + right.shown
      hidden := left.hidden + right.hidden
      ended := left.ended + right.ended
      expired := left.expired + right.expired } := rfl

def of (notes : List Note) : Tally where
  transmitted := notes.countP Note.isTransmit
  refreshed := notes.count .refreshAccessToken
  loggedOut := notes.count .logout
  shown := notes.count .shown
  hidden := notes.count .hidden
  ended := notes.countP Note.ends
  expired := notes.count (.failed 401)

theorem of_append (first second : List Note) :
    of (first ++ second) = of first + of second := by
  simp only [of, List.count_append, List.countP_append, add_eq]

/-- What holds of a request at any time. -/
structure Fair (http : HttpRequest) (tally : Tally) : Prop where
  transmitted : tally.transmitted ≤ 2
  refreshed : tally.refreshed ≤ 1
  ended : tally.ended ≤ 1
  expired : tally.expired ≤ tally.ended
  loggedOut : tally.loggedOut = if http.guarded then tally.expired else 0

/-- What holds at a stage. -/
def At (http : HttpRequest) (tally : Tally) (waits : Nat) :
    InterceptedStage → Prop
  | .refreshing =>
      waits = 1 ∧ http.guarded = true ∧ tally.transmitted ≤ 1 ∧
        tally.refreshed = 1 ∧ tally.ended = 0
  | .sent false =>
      waits = 0 ∧ tally.transmitted = 1 ∧ tally.refreshed = 0 ∧ tally.ended = 0
  | .sent true =>
      waits = 0 ∧ http.guarded = true ∧ tally.refreshed = 1 ∧ tally.ended = 0
  | .settled _ => waits = 0 ∧ tally.ended = 1

/-- What holds of a request that has been taken. -/
structure Fits (http : HttpRequest) (tally : Tally) (standing : Standing) :
    Prop where
  fair : tally.Fair http
  held : ∀ request, standing.entry = some request →
    request.toHttpRequest = http ∧
      tally.shown = tally.hidden + request.spinners ∧
        tally.At http standing.subscriptions request.stage ∧
          (tally.ended = 1 → request.spinners = 0)
  gone : standing.entry = none →
    standing.subscriptions ≤ 1 ∧ tally.ended = 1 ∧
      tally.shown = tally.hidden

@[simp] theorem of_finalizers (request : Intercepted) :
    of request.finalizers =
      { transmitted := 0, refreshed := 0, loggedOut := 0, shown := 0
        hidden := request.spinners, ended := 0, expired := 0 } := by
  simp [of, Intercepted.finalizers, List.count_replicate, List.countP_replicate,
    Note.isTransmit, Note.ends]

theorem of_cons (note : Note) (notes : List Note) :
    of (note :: notes) = of [note] + of notes :=
  of_append [note] notes

@[simp] theorem of_sending (http : HttpRequest) (token : Option String)
    (browser : Browser) :
    of (browser.sending http token) =
      { transmitted := 1, refreshed := 0, loggedOut := 0
        shown := if http.showSpinner then 1 else 0
        hidden := 0, ended := 0, expired := 0 } := by
  unfold Browser.sending
  by_cases shows : http.showSpinner = true
  · rw [if_pos shows, if_pos shows]
    rfl
  · rw [if_neg shows, if_neg shows]
    rfl

theorem of_completed (status : Nat) (request : Intercepted) :
    of (.completed status :: request.finalizers) =
      { transmitted := 0, refreshed := 0, loggedOut := 0, shown := 0
        hidden := request.spinners, ended := 1, expired := 0 } := by
  rw [of_cons, of_finalizers]
  simp [of, add_eq, Note.isTransmit, Note.ends]

theorem of_failed (status : Nat) (request : Intercepted) :
    of (.failed status :: request.finalizers) =
      { transmitted := 0, refreshed := 0, loggedOut := 0, shown := 0
        hidden := request.spinners, ended := 1
        expired := if status = 401 then 1 else 0 } := by
  rw [of_cons, of_finalizers]
  simp [of, add_eq, Note.isTransmit, Note.ends, List.count_singleton]

theorem of_expelled (request : Intercepted) :
    of (.logout :: .failed 401 :: request.finalizers) =
      { transmitted := 0, refreshed := 0, loggedOut := 1, shown := 0
        hidden := request.spinners, ended := 1, expired := 1 } := by
  rw [of_cons, of_failed]
  simp [of, add_eq, Note.isTransmit, Note.ends]

theorem of_unsubscribed (request : Intercepted) :
    of (.unsubscribed :: request.finalizers) =
      { transmitted := 0, refreshed := 0, loggedOut := 0, shown := 0
        hidden := request.spinners, ended := 1, expired := 0 } := by
  rw [of_cons, of_finalizers]
  simp [of, add_eq, Note.isTransmit, Note.ends]

/-- An answer that ends a request. -/
theorem of_answering {request : Intercepted} {retried : Bool}
    {response : Response}
    (final : Browser.answering request retried response ≠
      [.refreshAccessToken]) :
    ∃ expired ≤ 1, of (Browser.answering request retried response) =
      { transmitted := 0, refreshed := 0
        loggedOut := if request.guarded then expired else 0
        shown := 0, hidden := request.spinners, ended := 1, expired } := by
  cases response with
  | success status session =>
      refine ⟨0, Nat.zero_le _, ?_⟩
      rw [Browser.answering, of_completed, ite_self]
  | failure error =>
      rw [Browser.answering] at final ⊢
      by_cases plain : (request.passes || request.publicAuth ||
          error.status != 401) = true
      · rw [if_pos plain, of_failed]
        refine ⟨if error.status = 401 then 1 else 0, by split <;> omega, ?_⟩
        by_cases guarded : request.guarded = true
        · have other : error.status ≠ 401 := by
            rw [HttpRequest.guarded] at guarded
            simp only [Bool.and_eq_true, Bool.not_eq_true'] at guarded
            simpa [guarded.1, guarded.2] using plain
          rw [if_pos guarded, if_neg other]
        · rw [if_neg guarded]
      · rw [if_neg plain] at final ⊢
        have guarded : request.guarded = true := by
          simp only [Bool.or_eq_true, not_or, Bool.not_eq_true] at plain
          simp [HttpRequest.guarded, plain.1.1, plain.1.2]
        cases retried with
        | false => exact absurd rfl final
        | true =>
            refine ⟨1, Nat.le_refl _, ?_⟩
            rw [if_pos guarded]
            exact of_expelled request

variable {http : HttpRequest} {tally : Tally} {standing next : Standing}
  {notes : List Note}

/-- The phase a request is in when a refresh tells it the result. -/
theorem Fits.waiting {request : Intercepted} {waits : Nat}
    (fits : Fits http tally ⟨some request, waits + 1⟩) :
    waits = 0 ∧ http.guarded = true ∧ tally.transmitted ≤ 1 ∧
      tally.refreshed = 1 ∧ tally.ended = 0 := by
  obtain ⟨-, -, phase, -⟩ := fits.held request rfl
  dsimp only at phase
  cases stage : request.stage with
  | refreshing =>
      rw [stage] at phase
      obtain ⟨one, guarded, transmitted, refreshed, ended⟩ := phase
      exact ⟨by omega, guarded, transmitted, refreshed, ended⟩
  | sent retried =>
      rw [stage] at phase
      cases retried with
      | false => exact absurd phase.1 (Nat.succ_ne_zero _)
      | true => exact absurd phase.1 (Nat.succ_ne_zero _)
  | settled status =>
      rw [stage] at phase
      exact absurd phase.1 (Nat.succ_ne_zero _)

theorem Fits.sent {request : Intercepted} {retried : Bool} {waits : Nat}
    (fits : Fits http tally ⟨some request, waits⟩)
    (stage : request.stage = .sent retried) :
    waits = 0 ∧ tally.ended = 0 ∧
      (retried = false → tally.transmitted = 1 ∧ tally.refreshed = 0) := by
  obtain ⟨-, -, phase, -⟩ := fits.held request rfl
  rw [stage] at phase
  cases retried with
  | false =>
      obtain ⟨zero, transmitted, refreshed, ended⟩ := phase
      exact ⟨zero, ended, fun _ => ⟨transmitted, refreshed⟩⟩
  | true =>
      obtain ⟨zero, guarded, refreshed, ended⟩ := phase
      exact ⟨zero, ended, nofun⟩

/-- A step keeps the books. -/
theorem Fits.treats (fits : Fits http tally standing)
    (treats : Treats standing notes next) :
    Fits http (tally + of notes) next := by
  obtain ⟨transmitted, refreshed, ended, expired, loggedOut⟩ := fits.fair
  cases treats with
  | idle => exact fits
  | @settled request retried waits stage response status final =>
      obtain ⟨rfl, shown, -, -⟩ := fits.held request rfl
      obtain ⟨rfl, running, -⟩ := fits.sent stage
      obtain ⟨found, few, counted⟩ := of_answering final
      rw [counted, add_eq]
      dsimp only
      refine ⟨?_, ?_, nofun⟩
      · constructor <;> dsimp only
        · omega
        · omega
        · omega
        · omega
        · rw [loggedOut]
          split <;> rfl
      · rintro _ ⟨⟩
        exact ⟨rfl, by dsimp only; omega, ⟨rfl, by dsimp only; omega⟩,
          fun _ => rfl⟩
  | @retry request waits stage passes guarded =>
      obtain ⟨rfl, shown, -, -⟩ := fits.held request rfl
      obtain ⟨rfl, running, first⟩ := fits.sent stage
      obtain ⟨once, never⟩ := first rfl
      have guards : request.guarded = true := by
        rw [HttpRequest.guarded, passes, guarded]
        rfl
      have counted : of [.refreshAccessToken] =
        { transmitted := 0, refreshed := 1, loggedOut := 0, shown := 0
          hidden := 0, ended := 0, expired := 0 } := rfl
      rw [counted, add_eq]
      dsimp only
      refine ⟨?_, ?_, nofun⟩
      · constructor <;> dsimp only
        · omega
        · omega
        · omega
        · omega
        · exact loggedOut
      · rintro _ ⟨⟩
        exact ⟨rfl, shown, ⟨rfl, guards, by dsimp only; omega,
          by dsimp only; omega, running⟩, by dsimp only; omega⟩
  | @refreshed request waits token browser =>
      obtain ⟨rfl, shown, -, -⟩ := fits.held request rfl
      obtain ⟨rfl, guarded, once, done, running⟩ := fits.waiting
      rw [of_sending, add_eq]
      dsimp only
      refine ⟨?_, ?_, nofun⟩
      · constructor <;> dsimp only
        · omega
        · omega
        · omega
        · omega
        · exact loggedOut
      · rintro _ ⟨⟩
        exact ⟨rfl, by dsimp only; omega, ⟨rfl, guarded, done, running⟩,
          by dsimp only; omega⟩
  | @expelled request waits =>
      obtain ⟨rfl, shown, -, -⟩ := fits.held request rfl
      obtain ⟨rfl, guarded, once, done, running⟩ := fits.waiting
      rw [if_pos guarded] at loggedOut
      rw [of_expelled, add_eq]
      dsimp only
      refine ⟨?_, ?_, nofun⟩
      · constructor <;> dsimp only
        · omega
        · omega
        · omega
        · omega
        · rw [if_pos guarded]
          omega
      · rintro _ ⟨⟩
        exact ⟨rfl, by dsimp only; omega, ⟨rfl, by dsimp only; omega⟩,
          fun _ => rfl⟩
  | unheard =>
      obtain ⟨few, done, balanced⟩ := fits.gone rfl
      exact ⟨fits.fair, nofun, fun _ => ⟨Nat.le_of_succ_le few, done, balanced⟩⟩
  | @unsubscribed request waits stage =>
      obtain ⟨rfl, shown, phase, -⟩ := fits.held request rfl
      have running : waits ≤ 1 ∧ tally.ended = 0 := by
        dsimp only at phase
        cases held : request.stage with
        | settled status => exact absurd held (stage status)
        | refreshing =>
            rw [held] at phase
            exact ⟨Nat.le_of_eq phase.1, phase.2.2.2.2⟩
        | sent retried =>
            obtain ⟨rfl, running, -⟩ := fits.sent held
            exact ⟨Nat.zero_le _, running⟩
      rw [of_unsubscribed, add_eq]
      dsimp only
      refine ⟨?_, nofun, fun _ => ⟨running.1, ?_, ?_⟩⟩
      · constructor <;> dsimp only
        · omega
        · omega
        · omega
        · omega
        · exact loggedOut
      · dsimp only
        omega
      · dsimp only
        omega

/-- A request is taken. -/
theorem fits_begins {id : Nat} (begins : Begins id http 0 notes next) :
    Fits http (of notes) next := by
  cases begins with
  | passed passes =>
      have counted : of [.received http, .transmit none] =
        { transmitted := 1, refreshed := 0, loggedOut := 0, shown := 0
          hidden := 0, ended := 0, expired := 0 } := rfl
      rw [counted]
      refine ⟨⟨by simp, by simp, by simp, by simp, by simp⟩, ?_, nofun⟩
      rintro _ ⟨⟩
      exact ⟨rfl, rfl, ⟨rfl, rfl, rfl, rfl⟩, fun _ => rfl⟩
  | waiting passes guarded =>
      have guards : http.guarded = true := by
        rw [HttpRequest.guarded, passes, guarded]
        rfl
      have counted : of [.received http, .refreshAccessToken] =
        { transmitted := 0, refreshed := 1, loggedOut := 0, shown := 0
          hidden := 0, ended := 0, expired := 0 } := rfl
      rw [counted]
      refine ⟨⟨by simp, by simp, by simp, by simp, by simp⟩, ?_, nofun⟩
      rintro _ ⟨⟩
      exact ⟨rfl, rfl, ⟨rfl, guards, Nat.zero_le _, rfl, rfl⟩, fun _ => rfl⟩
  | sent passes browser =>
      have counted : of [.received http] =
        { transmitted := 0, refreshed := 0, loggedOut := 0, shown := 0
          hidden := 0, ended := 0, expired := 0 } := rfl
      rw [of_cons, counted, of_sending, add_eq]
      dsimp only
      refine ⟨⟨by simp, by simp, by simp, by simp, by simp⟩, ?_, nofun⟩
      rintro _ ⟨⟩
      exact ⟨rfl, by dsimp only, ⟨rfl, rfl, rfl, rfl⟩,
        fun done => nomatch done⟩

end Tally

/-- The bearer token goes to guarded requests only. -/
def BearerGuarded (http : HttpRequest) (notes : List Note) : Prop :=
  ∀ token, .transmit (some token) ∈ notes → http.guarded = true

theorem bearerGuarded_sending {http : HttpRequest} {token : Option String}
    {browser : Browser} (passes : http.passes = false) :
    BearerGuarded http (browser.sending http token) := by
  intro bearer member
  unfold Browser.sending at member
  by_cases publicAuth : http.publicAuth = true
  · rw [if_pos publicAuth] at member
    split at member <;> simp at member
  · rw [HttpRequest.guarded, passes, (Bool.not_eq_true _).mp publicAuth]
    rfl

theorem bearerGuarded_of_untransmitted {http : HttpRequest}
    {notes : List Note} (untransmitted : (Tally.of notes).transmitted = 0) :
    BearerGuarded http notes := by
  intro token member
  have none := List.countP_eq_zero.mp untransmitted _ member
  exact absurd rfl none

theorem HttpRequest.passes_of_guarded {http : HttpRequest}
    (guarded : http.guarded = true) : http.passes = false := by
  rw [HttpRequest.guarded] at guarded
  simp only [Bool.and_eq_true, Bool.not_eq_true'] at guarded
  exact guarded.1

section Steps

variable {http : HttpRequest} {tally : Tally} {standing next : Standing}
  {notes : List Note}

theorem bearerGuarded_begins {id : Nat}
    (begins : Begins id http 0 notes next) : BearerGuarded http notes := by
  cases begins with
  | passed passes =>
      intro token member
      simp at member
  | waiting passes guarded => exact bearerGuarded_of_untransmitted rfl
  | sent passes browser =>
      intro token member
      rcases List.mem_cons.mp member with same | member
      · cases same
      · exact bearerGuarded_sending passes token member

theorem bearerGuarded_treats (fits : tally.Fits http standing)
    (treats : Treats standing notes next) : BearerGuarded http notes := by
  cases treats with
  | idle | unheard => exact bearerGuarded_of_untransmitted rfl
  | settled stage response status final =>
      obtain ⟨expired, -, counted⟩ := Tally.of_answering final
      apply bearerGuarded_of_untransmitted
      rw [counted]
  | retry stage passes guarded => exact bearerGuarded_of_untransmitted rfl
  | refreshed token browser =>
      obtain ⟨rfl, -⟩ := fits.held _ rfl
      exact bearerGuarded_sending
        (HttpRequest.passes_of_guarded fits.waiting.2.1)
  | expelled =>
      apply bearerGuarded_of_untransmitted
      rw [Tally.of_expelled]
  | unsubscribed stage =>
      apply bearerGuarded_of_untransmitted
      rw [Tally.of_unsubscribed]

theorem received_treats {other : HttpRequest}
    (treats : Treats standing notes next) : .received other ∉ notes := by
  have finalizers (request : Intercepted) :
      .received other ∉ request.finalizers :=
    fun member => nomatch List.eq_of_mem_replicate member
  cases treats with
  | idle | unheard => exact List.not_mem_nil
  | @settled request retried _ stage response status final =>
      cases response with
      | success status session =>
          rw [Browser.answering]
          simp [finalizers]
      | failure error =>
          rw [Browser.answering]
          split
          · simp [finalizers]
          · split
            · simp [finalizers]
            · simp
  | retry stage passes guarded => simp
  | refreshed token browser =>
      unfold Browser.sending
      split <;> simp
  | expelled | unsubscribed stage => simp [finalizers]

theorem received_begins {id : Nat} {other : HttpRequest}
    (begins : Begins id http 0 notes next)
    (member : .received other ∈ notes) : other = http := by
  cases begins with
  | passed passes => simpa using member
  | waiting passes guarded => simpa using member
  | sent passes browser =>
      rcases List.mem_cons.mp member with same | member
      · exact Note.received.inj same
      · unfold Browser.sending at member
        split at member <;> simp at member

end Steps

/-- A request that has been taken, with what was noted of it so far. -/
structure Known (id : Nat) (http : HttpRequest) (browser : Browser)
    (past : List Note) : Prop where
  number : id < browser.nextRequest
  received : ∀ other, .received other ∈ past → other = http
  fits : (Tally.of past).Fits http (browser.standing id)
  bearer : BearerGuarded http past

/-- A request that has not come yet. -/
structure Unknown (id : Nat) (browser : Browser) (past : List Note) : Prop where
  number : browser.nextRequest ≤ id
  standing : browser.standing id = ⟨none, 0⟩
  past : past = []

section Runs

variable {expiry : String → Option Int} {id : Nat} {http : HttpRequest}
  {browser after : Browser} {past notes : List Note}

theorem Known.followed (known : Known id http browser past)
    (followed : browser.Followed id after notes) :
    Known id http after (past ++ notes) := by
  cases followed with
  | begins number => exact absurd known.number (by omega)
  | treats next treats =>
      refine ⟨next.mpr known.number, fun other member => ?_, ?_, ?_⟩
      · rcases List.mem_append.mp member with member | member
        · exact known.received other member
        · exact absurd member (received_treats treats)
      · rw [Tally.of_append]
        exact known.fits.treats treats
      · intro token member
        rcases List.mem_append.mp member with member | member
        · exact known.bearer token member
        · exact bearerGuarded_treats known.fits treats token member

theorem Unknown.followed (unknown : Unknown id browser past)
    (followed : browser.Followed id after notes) :
    Unknown id after (past ++ notes) ∨
      ∃ http, Known id http after (past ++ notes) := by
  obtain ⟨number, standing, rfl⟩ := unknown
  rw [List.nil_append]
  cases followed with
  | begins start next http begins =>
      have waits : browser.auth.subscriptions id = 0 :=
        congrArg Standing.subscriptions standing
      rw [waits] at begins
      exact .inr ⟨http, by omega, fun _ => received_begins begins,
        Tally.fits_begins begins, bearerGuarded_begins begins⟩
  | treats next treats =>
      rw [standing] at treats
      generalize later : after.standing id = result at treats
      cases treats with
      | idle => exact .inl ⟨by omega, later, rfl⟩

theorem coherent_act {action : Action} (coherent : browser.auth.Coherent)
    (acted : browser.act expiry action = some after) :
    after.auth.Coherent := by
  cases action with
  | event event => exact coherent_step coherent acted
  | unsubscribe name =>
      obtain ⟨request, found, given⟩ := Option.bind_eq_some_iff.mp acted
      split at given
      · cases given
      · obtain rfl := Option.some.inj given
        exact coherent

/-- What is noted of a request over a run. -/
theorem known_watch (expiry : String → Option Int) (actions : List Action)
    (coherent : browser.auth.Coherent)
    (known : Unknown id browser past ∨ ∃ http, Known id http browser past) :
    Unknown id (browser.watch expiry actions).1
        (past ++ notesOf id (browser.watch expiry actions).2) ∨
      ∃ http, Known id http (browser.watch expiry actions).1
        (past ++ notesOf id (browser.watch expiry actions).2) := by
  induction actions generalizing browser past with
  | nil =>
      rw [Browser.watch, notesOf_nil, List.append_nil]
      exact known
  | cons action rest induction =>
      rw [Browser.watch]
      cases acted : browser.act expiry action with
      | none => exact induction coherent known
      | some after =>
          dsimp only
          rw [notesOf_append, ← List.append_assoc]
          apply induction (coherent_act coherent acted)
          have followed : browser.Followed id after _ :=
            Browser.followed_act coherent acted
          rcases known with unknown | ⟨http, known⟩
          · exact unknown.followed followed
          · exact .inr ⟨http, known.followed followed⟩

end Runs

/-- What the interceptor does for one request; `guarded` ones are those under
`apiUrl` that are neither public nor translation files. -/
structure Balanced (http : HttpRequest) (notes : List Note) : Prop where
  transmitted : notes.countP Note.isTransmit ≤ 2
  refreshed : notes.count .refreshAccessToken ≤ 1
  loggedOut : notes.count .logout =
    if http.guarded = true ∧ .failed 401 ∈ notes then 1 else 0
  bearer : ∀ token, .transmit (some token) ∈ notes →
    http.inApi = true ∧ http.publicAuth = false
  ended : notes.countP Note.ends ≤ 1
  spinner : (∃ note ∈ notes, note.ends = true) →
    notes.count .shown = notes.count .hidden

/-- The request waits for an answer, or for a refresh that will tell it. -/
def Pending (id : Nat) (browser : Browser) : Prop :=
  (∃ request ∈ browser.requests, request.id = id ∧
    ∃ retried, request.stage = .sent retried) ∨
  ∃ operation ∈ browser.auth.operations, .request id ∈ operation.subscribers

namespace Known

variable {id : Nat} {http : HttpRequest} {browser : Browser}
  {notes : List Note}

theorem balanced (known : Known id http browser notes) :
    Balanced http notes := by
  obtain ⟨transmitted, refreshed, ended, expired, loggedOut⟩ := known.fits.fair
  refine ⟨transmitted, refreshed, ?_, fun token member => ?_, ended, ?_⟩
  · have few : notes.count (.failed 401) ≤ 1 := Nat.le_trans expired ended
    have counted : notes.count .logout =
        if http.guarded then notes.count (.failed 401) else 0 := loggedOut
    rw [counted]
    by_cases guarded : http.guarded = true
    · rw [if_pos guarded]
      by_cases member : .failed 401 ∈ notes
      · have some : 0 < notes.count (.failed 401) :=
          List.count_pos_iff.mpr member
        rw [if_pos ⟨guarded, member⟩]
        omega
      · rw [if_neg fun both => member both.2]
        exact List.count_eq_zero.mpr member
    · rw [if_neg guarded, if_neg fun both => guarded both.1]
  · have guarded := known.bearer token member
    rw [HttpRequest.guarded, HttpRequest.passes] at guarded
    simp only [Bool.and_eq_true, Bool.not_eq_true', Bool.or_eq_false_iff,
      Bool.not_eq_false'] at guarded
    exact ⟨guarded.1.1, guarded.2⟩
  · rintro ⟨note, member, ends⟩
    have done : (Tally.of notes).ended = 1 := by
      have some : 0 < (Tally.of notes).ended :=
        List.countP_pos_iff.mpr ⟨note, member, ends⟩
      omega
    cases entry : (browser.standing id).entry with
    | none => exact (known.fits.gone entry).2.2
    | some request =>
        obtain ⟨-, shown, -, hidden⟩ := known.fits.held request entry
        rw [hidden done, Nat.add_zero] at shown
        exact shown

theorem pending (known : Known id http browser notes)
    (running : ∀ note ∈ notes, note.ends = false) : Pending id browser := by
  have open_ : (Tally.of notes).ended = 0 := by
    refine List.countP_eq_zero.mpr fun note member => ?_
    rw [running note member]
    exact Bool.false_ne_true
  cases entry : (browser.standing id).entry with
  | none =>
      have done := (known.fits.gone entry).2.1
      omega
  | some request =>
      obtain ⟨-, -, phase, -⟩ := known.fits.held request entry
      obtain ⟨member, identified⟩ := Table.find_eq_some.mp entry
      cases stage : request.stage with
      | sent retried => exact .inl ⟨request, member, identified, retried, stage⟩
      | settled status =>
          rw [stage] at phase
          have done := phase.2
          omega
      | refreshing =>
          rw [stage] at phase
          have waits : browser.auth.subscriptions id = 1 := phase.1
          obtain ⟨operation, member, subscribed⟩ :=
            Table.exists_of_total_pos (Nat.lt_of_lt_of_eq Nat.one_pos waits.symm)
          exact .inr ⟨operation, member, List.count_pos_iff.mp subscribed⟩

end Known

theorem transmitted_foldl (id : Nat) (notes : List (Nat × Note))
    (services : Services) :
    (notes.foldl Services.record services).transmitted.countP
        (·.request = id) =
      services.transmitted.countP (·.request = id) +
        (notesOf id notes).countP Note.isTransmit := by
  induction notes generalizing services with
  | nil => rfl
  | cons note rest induction =>
      obtain ⟨name, note⟩ := note
      have split : notesOf id ((name, note) :: rest) =
          (if name = id then [note] else []) ++ notesOf id rest := by
        by_cases own : name = id
        · simp [notesOf, own]
        · simp [notesOf, own]
      rw [List.foldl_cons, induction, split, List.countP_append, ← Nat.add_assoc]
      congr 1
      cases note with
      | transmit bearer =>
          by_cases own : name = id
          · simp [Services.record, own, Note.isTransmit, List.countP_append]
          · simp [Services.record, own, List.countP_append]
      | _ =>
          by_cases own : name = id
          · simp [Services.record, own, Note.isTransmit]
          · simp [Services.record, own]

/-- The transmissions of a request are those that were noted. -/
theorem transmitted_watch {expiry : String → Option Int} {browser : Browser}
    (actions : List Action) (id : Nat) :
    (browser.watch expiry actions).1.transmitted.countP (·.request = id) =
      browser.transmitted.countP (·.request = id) +
        (notesOf id (browser.watch expiry actions).2).countP
          Note.isTransmit := by
  induction actions generalizing browser with
  | nil => rfl
  | cons action rest induction =>
      rw [Browser.watch]
      cases acted : browser.act expiry action with
      | none => exact induction
      | some after =>
          have services := Browser.services_act acted
          have sent : after.transmitted =
              ((browser.notes expiry action).foldl Services.record
                (Browser.direct action browser.services)).transmitted :=
            congrArg Services.transmitted services
          have same : (Browser.direct action browser.services).transmitted =
              browser.transmitted := by
            unfold Browser.direct
            split <;> rfl
          dsimp only
          rw [induction, sent, transmitted_foldl, same, notesOf_append,
            List.countP_append, Nat.add_assoc]

/-- Every request is sent at most twice, refreshes at most once and gives the
session up exactly when it is guarded and ends in a 401; it ends at most once,
with its spinners hidden, and until then it waits for an answer or a refresh. -/
theorem apiInterceptor_balanced (expiry : String → Option Int) (actions : List Action)
    (id : Nat) (http : HttpRequest)
    (received : (id, .received http) ∈ (Browser.watch expiry actions {}).2) :
    let after := (Browser.watch expiry actions {}).1
    let notes := notesOf id (Browser.watch expiry actions {}).2
    Balanced http notes ∧
      after.transmitted.countP (·.request = id) = notes.countP Note.isTransmit ∧
        ((∀ note ∈ notes, note.ends = false) → Pending id after) := by
  have taken : .received http ∈
      notesOf id (Browser.watch expiry actions {}).2 :=
    List.mem_filterMap.mpr ⟨_, received, if_pos rfl⟩
  have unknown : Unknown id {} [] := ⟨Nat.zero_le _, rfl, rfl⟩
  have seen := known_watch expiry actions AuthService.coherent_initially
    (.inl unknown)
  rw [List.nil_append] at seen
  rcases seen with unknown | ⟨other, known⟩
  · rw [unknown.past] at taken
    cases taken
  · obtain rfl := known.received http taken
    refine ⟨known.balanced, ?_, known.pending⟩
    rw [transmitted_watch]
    exact Nat.zero_add _

namespace Sample

def regions : HttpRequest :=
  { url := "/api/v1/admin/regions", method := "POST" }

def translation : HttpRequest :=
  { url := "/api/v1/assets/i18n/en.json", method := "GET" }

def unauthorized : Response :=
  .failure { status := 401, payload := .absent, errors := none, message := "" }

/-- A login, and a request that is refused, refreshes and is refused again. -/
def refusedTwice : List Action :=
  [.event (.login 0), .event (.answer 0 (.success 200 (some fresh))),
    .event (.request 0 regions), .event (.answer 1 unauthorized),
    .event (.posted 0 (some fresh)),
    .event (.loaded 0 (some ⟨1, "e", none, none, none⟩)), .event (.deliver 0),
    .event (.answer 1 unauthorized)]

def refusedTranslation : List Action :=
  [.event (.request 0 translation), .event (.answer 0 unauthorized)]

end Sample

theorem apiInterceptor_balanced_refusedTwice :
    let notes := notesOf 1 (Browser.watch (fun _ => none) Sample.refusedTwice
      {}).2
    Balanced Sample.regions notes ∧ notes.countP Note.isTransmit = 2 ∧
      notes.count .logout = 1 ∧ notes.count .shown = 2 :=
  ⟨(apiInterceptor_balanced (fun _ => none) Sample.refusedTwice 1 Sample.regions
    (by decide)).1, by decide, by decide, by decide⟩

/-- A request for a translation file is refused without a logout. -/
theorem translation_keeps_session :
    ¬∀ actions id http,
      (id, .received http) ∈ (Browser.watch (fun _ => none) actions {}).2 →
        http.inApi = true → http.publicAuth = false →
          let notes := notesOf id
            (Browser.watch (fun _ => none) actions {}).2
          .failed 401 ∈ notes → notes.count .logout = 1 := by
  intro always
  have once := always Sample.refusedTranslation 0 Sample.translation (by decide)
    (by decide) (by decide) (by decide)
  exact absurd once (by decide)

end Web

end SaasFoundation
