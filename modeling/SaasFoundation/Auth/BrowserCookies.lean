import SaasFoundation.Auth.BrowserAuthController

/-!
# The refresh token in a browser

Answers may come in any order and other code of the host may keep cookies of
its own.  What the controller reads of a request is the token of the last
session answer the browser has received, as long as the cookie lasts and no
logout has been answered since.  Requests come from pages of the same site: the
cookie is a strict one and goes with no others.
-/

namespace SaasFoundation

open Relational Transaction Cookies

namespace BrowserAuthController

inductive BrowserEvent where
  | waited (duration : Nat)
  /-- Other code sets a cookie. -/
  | stored (cookie : Cookie)
  | removed (name : String)
  /-- The answer to a login or a refresh arrives. -/
  | answered (tokens : Tokens) (issued : Int)
  /-- The answer to a logout arrives. -/
  | loggedOut
  deriving DecidableEq, Repr

structure Browser where
  now : Int
  jar : Jar

section Runs

variable (config : BrowserRuntime) (jwt : RefreshJwt) (lifetime : Int)

def Browser.receive (browser : Browser) (headers : List SetCookie) : Browser :=
  { browser with
    jar := headers.foldl (fun jar header => jar.receive browser.now header)
      browser.jar }

def Browser.step (browser : Browser) : BrowserEvent → Browser
  | .waited duration => { browser with now := browser.now + duration }
  | .stored cookie => { browser with jar := browser.jar.put cookie }
  | .removed name => { browser with jar := browser.jar.drop name }
  | .answered tokens issued =>
      browser.receive (setSession config jwt lifetime issued tokens).cookies
  | .loggedOut => browser.receive [clearedCookie config]

def Browser.run (start : Int) (events : List BrowserEvent) : Browser :=
  events.foldl (Browser.step config jwt lifetime) { now := start, jar := ∅ }

/-- The request a page of the same site sends, with an `Origin` header. -/
def Browser.request (browser : Browser) (origin : Option String) :
    BrowserRequest where
  origin := origin
  cookie := browser.jar.header browser.now

/-- Other code leaves the cookie of the session alone. -/
def BrowserEvent.Foreign : BrowserEvent → Prop
  | .stored cookie => cookie.Proper ∧ cookie.name ≠ cookieName config
  | .removed name => name ≠ cookieName config
  | _ => True

/-- The token of the last session answer and when it is forgotten. -/
structure Memory where
  now : Int
  held : Option (String × Int)
  deriving DecidableEq, Repr

def Memory.step (memory : Memory) : BrowserEvent → Memory
  | .waited duration => { memory with now := memory.now + duration }
  | .stored _ | .removed _ => memory
  | .answered tokens issued =>
      { memory with
        held := some (jwt.sign tokens.sessionId tokens.hash issued,
          memory.now + 1000 * (lifetime / 1000)) }
  | .loggedOut => { memory with held := none }

def Memory.run (start : Int) (events : List BrowserEvent) : Memory :=
  events.foldl (Memory.step jwt lifetime) { now := start, held := none }

def Memory.live (memory : Memory) : Option (String × Int) :=
  memory.held.filter fun held => memory.now < held.2

/-- The session and hash of the token, when it verifies. -/
def Memory.session (memory : Memory) : Option (Nat × Nat) :=
  memory.live.bind fun held =>
    (jwt.verify held.1 memory.now).bind BrowserAuthController.session

end Runs

section Cookie

variable {config : BrowserRuntime} {jwt : RefreshJwt} {lifetime : Int}

theorem unspaced_of_isUnreserved {char : Char}
    (plain : Uri.isUnreserved char = true) : Text.isSpace char = false := by
  have bounds := Uri.bounds_of_isUnreserved plain
  simp only [Text.isSpace, Bool.or_eq_false_iff, Bool.and_eq_false_iff,
    decide_eq_false_iff_not, beq_eq_false_iff_ne]
  omega

theorem trimmed_of_unspaced {text : List Char}
    (inside : ∀ char ∈ text, Text.isSpace char = false) : Text.Trimmed text where
  head char found := inside char (List.mem_of_head? found)
  last char found := inside char (List.mem_of_getLast? found)

theorem unspaced_encodeURIComponent (value : String) :
    ∀ char ∈ (Uri.encodeURIComponent value).toList,
      Text.isSpace char = false := by
  intro char member
  obtain plain | percent | ⟨digit, same⟩ := Uri.mem_encodeURIComponent member
  · exact unspaced_of_isUnreserved plain
  · rw [percent]
    decide
  · have all : ∀ digit : Fin 16,
        Text.isSpace (Percent.hexDigit digit) = false := by
      decide
    rw [same]
    exact all digit

/-- The name in either mode. -/
theorem cookieName_cases (config : BrowserRuntime) :
    config.production = true ∧ cookieName config = "__Host-refresh" ∨
      config.production = false ∧ cookieName config = "refresh" := by
  unfold cookieName
  cases config.production with
  | true => exact .inl ⟨rfl, rfl⟩
  | false => exact .inr ⟨rfl, rfl⟩

/-- What holds of both names. -/
theorem cookieName_of {holds : String → Prop} (host : holds "__Host-refresh")
    (bare : holds "refresh") (config : BrowserRuntime) :
    holds (cookieName config) := by
  obtain ⟨_, name⟩ | ⟨_, name⟩ := cookieName_cases config
  · rw [name]
    exact host
  · rw [name]
    exact bare

theorem first_cookieName (config : BrowserRuntime) :
    ∃ first rest, (cookieName config).toList = first :: rest ∧
      Text.isSpace first = false := by
  apply @cookieName_of fun name => ∃ first rest,
    name.toList = first :: rest ∧ Text.isSpace first = false
  · exact ⟨'_', "_Host-refresh".toList, by decide, by decide⟩
  · exact ⟨'r', "efresh".toList, by decide, by decide⟩

theorem plain_cookieName (config : BrowserRuntime) :
    '=' ∉ (cookieName config).toList := by
  apply @cookieName_of fun name => '=' ∉ name.toList
  · decide
  · decide

theorem whole_cookieName (config : BrowserRuntime) :
    ';' ∉ (cookieName config).toList := by
  apply @cookieName_of fun name => ';' ∉ name.toList
  · decide
  · decide

theorem unspaced_cookieName (config : BrowserRuntime) :
    ∀ char ∈ (cookieName config).toList, Text.isSpace char = false := by
  have all : (cookieName config).toList.all (!Text.isSpace ·) = true := by
    apply @cookieName_of fun name => name.toList.all (!Text.isSpace ·) = true
    · decide
    · decide
  intro char member
  simpa using List.all_eq_true.mp all char member

theorem proper_session (config : BrowserRuntime) (value : String)
    (expires : Option Int) :
    ({ name := cookieName config, value := Uri.encodeURIComponent value
       expires } : Cookie).Proper where
  named := first_cookieName config
  plain := plain_cookieName config
  whole := by
    have absent := Uri.not_mem_encodeURIComponent value
      (show Uri.isUnreserved ';' = false by decide) (by decide) (by decide)
    rw [toList_pair]
    simp [whole_cookieName config, absent]

/-- A header with the options of the controller sets its cookie. -/
theorem cookie_withOptions {header : SetCookie} {value : String} {now : Int}
    (options : header.pair = (withOptions config value).pair) :
    header.cookie now =
      { name := cookieName config, value := Uri.encodeURIComponent value
        expires := header.expiry now } := by
  have name : header.name = cookieName config :=
    SetCookie.name_eq options (plain_cookieName config)
      (trimmed_of_unspaced (unspaced_cookieName config))
  have text : header.value = Uri.encodeURIComponent value :=
    SetCookie.value_eq options (plain_cookieName config)
      (trimmed_of_unspaced (unspaced_encodeURIComponent value))
  rw [SetCookie.cookie, name, text]

theorem accepted_withOptions {header : SetCookie} {value : String}
    (options : header.pair = (withOptions config value).pair)
    (secure : header.secure = config.production) (path : header.path = "/") :
    header.accepted = true := by
  have name : header.name = cookieName config :=
    SetCookie.name_eq options (plain_cookieName config)
      (trimmed_of_unspaced (unspaced_cookieName config))
  rw [SetCookie.accepted, name, secure, path]
  obtain ⟨mode, name⟩ | ⟨mode, name⟩ := cookieName_cases config
  · rw [mode, name]
    decide
  · rw [mode, name]
    decide

theorem receive_withOptions {jar : Jar} {header : SetCookie} {value : String}
    (now : Int) (options : header.pair = (withOptions config value).pair)
    (secure : header.secure = config.production) (path : header.path = "/") :
    jar.receive now header =
      jar.put
        { name := cookieName config, value := Uri.encodeURIComponent value
          expires := header.expiry now } := by
  rw [Jar.receive, if_pos (accepted_withOptions options secure path),
    cookie_withOptions options]

end Cookie

section Agreement

variable {config : BrowserRuntime} {jwt : RefreshJwt} {lifetime : Int}

/-- The cookie a remembered token is kept in. -/
def heldCookie (config : BrowserRuntime) (held : String × Int) : Cookie where
  name := cookieName config
  value := Uri.encodeURIComponent held.1
  expires := some held.2

theorem expired_heldCookie (now : Int) (held : String × Int) :
    expired now (heldCookie config held) = !decide (now < held.2) := by
  have reads : expired now (heldCookie config held) =
      decide (held.2 ≤ now) := rfl
  rw [reads, ← decide_not, decide_eq_decide]
  omega

structure Agrees (config : BrowserRuntime) (browser : Browser)
    (memory : Memory) : Prop where
  now : browser.now = memory.now
  proper : ∀ cookie ∈ browser.jar, cookie.Proper
  live : browser.jar.live browser.now (cookieName config) =
    memory.live.map (heldCookie config)
  /-- The clock stands after 1970. -/
  dated : 1 ≤ browser.now

variable {browser : Browser} {memory : Memory}

theorem Agrees.waited (agrees : Agrees config browser memory)
    (duration : Nat) :
    Agrees config { browser with now := browser.now + duration }
      { memory with now := memory.now + duration } where
  now := by rw [agrees.now]
  proper := agrees.proper
  live := by
    have ordered : browser.now ≤ browser.now + duration := by omega
    rw [Table.live_later ordered, agrees.live, Memory.live, Memory.live,
      agrees.now]
    cases memory.held with
    | none => rfl
    | some held =>
        by_cases lasts : memory.now < held.2
        · simp [Option.filter, lasts, expired_heldCookie]
        · have ended : ¬memory.now + duration < held.2 := by omega
          simp [Option.filter, lasts, ended]
  dated := by
    have := agrees.dated
    dsimp only
    omega

theorem Agrees.stored (agrees : Agrees config browser memory) {cookie : Cookie}
    (proper : cookie.Proper) (other : cookie.name ≠ cookieName config) :
    Agrees config { browser with jar := browser.jar.put cookie } memory where
  now := agrees.now
  proper := by
    intro kept member
    obtain rfl | ⟨old, _⟩ := Table.mem_put.mp member
    · exact proper
    · exact agrees.proper kept old
  live := by
    rw [Table.live_put, Cookie.key_eq, if_neg (Ne.symm other)]
    exact agrees.live
  dated := agrees.dated

theorem Agrees.removed (agrees : Agrees config browser memory) {name : String}
    (other : name ≠ cookieName config) :
    Agrees config { browser with jar := browser.jar.drop name } memory where
  now := agrees.now
  proper := by
    intro kept member
    exact agrees.proper kept (Table.mem_drop.mp member).1
  live := by
    rw [Table.live_drop, if_neg (Ne.symm other)]
    exact agrees.live
  dated := agrees.dated

/-- A cookie of the controller replaces the one the browser keeps. -/
theorem Agrees.put (agrees : Agrees config browser memory)
    (held : String × Int) :
    Agrees config { browser with jar := browser.jar.put (heldCookie config held) }
      { memory with held := some held } where
  now := agrees.now
  proper := by
    intro kept member
    obtain rfl | ⟨old, _⟩ := Table.mem_put.mp member
    · exact proper_session config held.1 (some held.2)
    · exact agrees.proper kept old
  live := by
    have name : key (heldCookie config held) = cookieName config := rfl
    rw [Table.live_put, name, if_pos rfl, expired_heldCookie, agrees.now]
    by_cases lasts : memory.now < held.2
    · simp [Memory.live, Option.filter, lasts]
    · simp [Memory.live, Option.filter, lasts]
  dated := agrees.dated

theorem Agrees.forget (agrees : Agrees config browser memory)
    {held : String × Int} (past : held.2 ≤ memory.now)
    (stored : memory.held = some held) :
    Agrees config browser { memory with held := none } where
  now := agrees.now
  proper := agrees.proper
  live := by
    rw [agrees.live, Memory.live, stored]
    simp [Memory.live, Option.filter, Int.not_lt.mpr past]
  dated := agrees.dated

theorem receive_sessionSet (tokens : Tokens) (issued : Int) (browser : Browser) :
    browser.receive (setSession config jwt lifetime issued tokens).cookies =
      { browser with
        jar := browser.jar.put (heldCookie config
          (jwt.sign tokens.sessionId tokens.hash issued,
            browser.now + 1000 * (lifetime / 1000))) } := by
  have received := @receive_withOptions config browser.jar
    (sessionSet config jwt lifetime issued tokens)
    (jwt.sign tokens.sessionId tokens.hash issued) browser.now rfl rfl rfl
  simp only [Browser.receive, setSession, List.foldl_cons, List.foldl_nil,
    received]
  rfl

theorem receive_clearedCookie (browser : Browser) :
    browser.receive [clearedCookie config] =
      { browser with jar := browser.jar.put (heldCookie config ("", 1)) } := by
  have received := @receive_withOptions config browser.jar
    (clearedCookie config) "" browser.now rfl rfl rfl
  simp only [Browser.receive, List.foldl_cons, List.foldl_nil, received]
  rfl

theorem Agrees.step (agrees : Agrees config browser memory)
    {event : BrowserEvent} (foreign : event.Foreign config) :
    Agrees config (browser.step config jwt lifetime event)
      (memory.step jwt lifetime event) := by
  cases event with
  | waited duration => exact agrees.waited duration
  | stored cookie => exact agrees.stored foreign.1 foreign.2
  | removed name => exact agrees.removed foreign
  | answered tokens issued =>
      have kept := agrees.put (jwt.sign tokens.sessionId tokens.hash issued,
        memory.now + 1000 * (lifetime / 1000))
      rw [Browser.step, receive_sessionSet, agrees.now]
      rwa [agrees.now] at kept
  | loggedOut =>
      have past : (1 : Int) ≤ memory.now := agrees.now ▸ agrees.dated
      rw [Browser.step, receive_clearedCookie]
      exact (agrees.put ("", 1)).forget past rfl

theorem agrees_run {start : Int} (dated : 1 ≤ start)
    {events : List BrowserEvent}
    (foreign : ∀ event ∈ events, event.Foreign config) :
    Agrees config (Browser.run config jwt lifetime start events)
      (Memory.run jwt lifetime start events) := by
  have initially : Agrees config { now := start, jar := ∅ }
      { now := start, held := none } :=
    ⟨rfl, fun _ member => absurd member (Table.not_mem_empty _), rfl, dated⟩
  unfold Browser.run Memory.run
  generalize ({ now := start, jar := ∅ } : Browser) = browser at initially ⊢
  generalize ({ now := start, held := none } : Memory) = memory at initially ⊢
  induction events generalizing browser memory with
  | nil => exact initially
  | cons event events hypothesis =>
      exact hypothesis (fun later member =>
          foreign later (List.mem_cons_of_mem _ member)) _ _
        (initially.step (foreign event List.mem_cons_self))

/-- The controller reads the remembered token. -/
theorem Agrees.sessionCookie (agrees : Agrees config browser memory)
    (origin : Option String) :
    (sessionCookie config (browser.request origin)).bind
        Uri.decodeURIComponent =
      memory.live.map Prod.fst := by
  have found := header_find agrees.proper browser.now (plain_cookieName config)
  rw [agrees.live] at found
  have cookie : (browser.request origin).cookie =
      browser.jar.header browser.now := rfl
  rw [BrowserAuthController.sessionCookie, cookie, found]
  cases memory.live with
  | none => rfl
  | some held =>
      have text := toList_trim_pair
        (proper_session config held.1 (some held.2))
      have kept : (Uri.encodeURIComponent held.1).toList.rdropWhile
          Text.isSpace = (Uri.encodeURIComponent held.1).toList := by
        apply List.rdropWhile_eq_self_iff.mpr
        intro some space
        rw [unspaced_encodeURIComponent held.1 _ (List.getLast_mem some)]
          at space
        exact absurd space (by decide)
      have value : String.ofList
          ((Text.trim (heldCookie config held).pair).toList.drop
            ((cookieName config).length + 1)) =
          Uri.encodeURIComponent held.1 := by
        have size : (cookieName config).toList.length =
            (cookieName config).length :=
          String.length_toList
        rw [heldCookie, text, kept, ← size, List.drop_append]
        simp
      simp only [Option.map_some, Option.bind_some, value,
        Uri.decode_encodeURIComponent]

theorem Agrees.readSession (agrees : Agrees config browser memory)
    (origin : Option String) :
    readSession config jwt browser.now (browser.request origin) =
      match memory.session jwt with
      | none => .error unavailable
      | some found => .ok found := by
  have read := agrees.sessionCookie origin
  rw [BrowserAuthController.readSession, read, Memory.session, agrees.now]
  cases memory.live <;> rfl

end Agreement

section Routes

variable {config : BrowserRuntime} {jwt : RefreshJwt} {lifetime : Int}

/-- What the routes make of the requests of a browser that should remember a
session and the hash of its token. -/
structure Serves (config : BrowserRuntime) (jwt : RefreshJwt) (lifetime : Int)
    (browser : Browser) (remembered : Option (Nat × Nat)) : Prop where
  refresh : ∀ origin ∈ config.origins,
    refresh config jwt lifetime browser.now (browser.request (some origin)) =
      remembered.elim (Tx.throw unavailable) fun found => do
        let tokens ← AuthService.refreshToken found.1 found.2
        pure (setSession config jwt lifetime browser.now tokens)
  logout : ∀ origin ∈ config.origins,
    logout config jwt browser.now (browser.request (some origin)) =
      ([clearedCookie config],
        remembered.elim (pure ()) fun found => AuthService.logout found.1)
  /-- Without one of the origins a request is refused and sets no cookie. -/
  refused : ∀ origin : Option String,
    (∀ known ∈ config.origins, origin ≠ some known) →
      (∀ runtime auth email password,
        login config jwt lifetime browser.now runtime auth email password
          (browser.request origin) = Tx.throw untrusted) ∧
      BrowserAuthController.refresh config jwt lifetime browser.now
        (browser.request origin) = Tx.throw untrusted ∧
      BrowserAuthController.logout config jwt browser.now
        (browser.request origin) = ([], Tx.throw untrusted)

/-- No empty origin is configured. -/
theorem origin_ne_empty {environment corsOrigins frontendDomain : Option String}
    (loaded : loadRuntimeConfig environment corsOrigins frontendDomain =
      some config) : "" ∉ config.origins := by
  unfold loadRuntimeConfig at loaded
  dsimp only at loaded
  split at loaded
  · exact absurd loaded (by simp)
  · obtain rfl := Option.some.inj loaded
    intro member
    exact (Text.clean_of_mem_values member).nonempty rfl

theorem trusted_of_mem {origin : String} (known : origin ∈ config.origins)
    (browser : Browser) :
    trusted config (browser.request (some origin)) = true :=
  List.contains_iff_mem.mpr known

theorem untrusted_of_unknown {origin : Option String}
    (nonempty : "" ∉ config.origins)
    (unknown : ∀ known ∈ config.origins, origin ≠ some known)
    (browser : Browser) :
    trusted config (browser.request origin) = false := by
  rw [Bool.eq_false_iff]
  intro accepted
  have known := List.contains_iff_mem.mp accepted
  cases origin with
  | none => exact nonempty known
  | some origin => exact unknown origin known rfl

/-- Whatever happened to the cookies of a browser, the routes act on the token
of the last session answer it has received. -/
theorem serves_of_run
    {environment corsOrigins frontendDomain : Option String}
    (loaded : loadRuntimeConfig environment corsOrigins frontendDomain =
      some config)
    {start : Int} (dated : 1 ≤ start) {events : List BrowserEvent}
    (foreign : ∀ event ∈ events, event.Foreign config) :
    Serves config jwt lifetime (Browser.run config jwt lifetime start events)
      ((Memory.run jwt lifetime start events).session jwt) := by
  have agrees : Agrees config (Browser.run config jwt lifetime start events)
      (Memory.run jwt lifetime start events) :=
    agrees_run dated foreign
  constructor
  · intro origin known
    have accepted := trusted_of_mem known
      (Browser.run config jwt lifetime start events)
    unfold BrowserAuthController.refresh checkOrigin
    rw [if_pos accepted, agrees.readSession]
    cases (Memory.run jwt lifetime start events).session jwt with
    | none => rfl
    | some found => rfl
  · intro origin known
    have accepted := trusted_of_mem known
      (Browser.run config jwt lifetime start events)
    unfold BrowserAuthController.logout
    rw [if_pos accepted, agrees.readSession]
    cases (Memory.run jwt lifetime start events).session jwt with
    | none => rfl
    | some found => rfl
  · intro origin unknown
    have refused := untrusted_of_unknown (origin_ne_empty loaded) unknown
      (Browser.run config jwt lifetime start events)
    refine ⟨?_, ?_, ?_⟩
    · intro runtime auth email password
      unfold login checkOrigin
      rw [refused]
      rfl
    · unfold BrowserAuthController.refresh checkOrigin
      rw [refused]
      rfl
    · unfold BrowserAuthController.logout
      rw [refused]
      rfl

end Routes

namespace Sample

def runtime : BrowserRuntime where
  production := true
  origins := ["https://app.test"]

def jwt : RefreshJwt where
  sign sessionId hash _ := toString sessionId ++ "." ++ toString hash
  verify token _ :=
    if token = "7.9" then some { sessionId := some 7, hash := some 9 } else none

def theme : Cookie where
  name := "theme"
  value := "dark "
  expires := none

def tokens : Tokens where
  userId := 1
  role := some 2
  sessionId := 7
  hash := 9

/-- A logout is answered before the answer to a login arrives. -/
def events : List BrowserEvent :=
  [.stored theme, .loggedOut, .answered tokens 4, .waited 500]

theorem foreign_events : ∀ event ∈ events, event.Foreign runtime := by
  intro event member
  simp only [events, List.mem_cons, List.not_mem_nil, or_false] at member
  obtain rfl | rfl | rfl | rfl := member
  · refine ⟨⟨⟨'t', "heme".toList, ?_, ?_⟩, ?_, ?_⟩, ?_⟩ <;> decide +kernel
  · trivial
  · trivial
  · trivial

end Sample

theorem serves_of_run_answered :
    (Memory.run Sample.jwt 60000 1 Sample.events).session Sample.jwt =
        some (7, 9) ∧
      Serves Sample.runtime Sample.jwt 60000
        (Browser.run Sample.runtime Sample.jwt 60000 1 Sample.events)
        ((Memory.run Sample.jwt 60000 1 Sample.events).session Sample.jwt) := by
  have loaded : loadRuntimeConfig (some "production")
      (some " https://app.test ,") none = some Sample.runtime := by
    decide +kernel
  refine ⟨by decide +kernel, serves_of_run loaded ?_ Sample.foreign_events⟩
  decide

end BrowserAuthController

end SaasFoundation
