import SaasFoundation.Platform.Storage

/-!
# `platform/rate-limit.guard.ts`

The guard is registered as `APP_GUARD`, so that Nest runs it before the guards
of the controllers.  `AuthGuard('jwt')`, which attaches the user, is one of
these: the limiter never sees whom a request comes from.  `runGuards` and
`JwtAuthGuard` stand for Nest and `@nestjs/passport`, which the repository does
not contain, as their documentation describes them.
-/

namespace SaasFoundation

open Relational RedisService

/-- The rate limits of `runtime.config.ts`, within the bounds it checks. -/
structure RuntimeConfig where
  keyPrefix : String
  rateLimit : Nat
  rateWindowSeconds : Int
  apiRateLimit : Nat
  apiRateWindowSeconds : Int
  rateLimit_pos : 1 ≤ rateLimit
  rateWindowSeconds_pos : 1 ≤ rateWindowSeconds
  apiRateWindowSeconds_pos : 1 ≤ apiRateWindowSeconds

structure RateLimitOptions where
  limit : Option Nat := none
  windowSeconds : Option Int := none
  bucket : Option String := none

/-- The routes, by the metadata of `@SkipRateLimit` and `@RateLimit`. -/
inductive Route where
  | health
  | workspaceCreate
  | workspaceAccept
  | workspaceInvite
  | other
  deriving DecidableEq, Repr

namespace Route

def skip : Route → Bool
  | health => true
  | _ => false

def options : Route → RateLimitOptions
  | workspaceCreate =>
      { limit := some 20, windowSeconds := some 3600
        bucket := some "workspace-create" }
  | workspaceAccept =>
      { limit := some 30, windowSeconds := some 3600
        bucket := some "workspace-accept" }
  | workspaceInvite =>
      { limit := some 30, windowSeconds := some 3600
        bucket := some "workspace-invite" }
  | _ => {}

def all : List Route :=
  [health, workspaceCreate, workspaceAccept, workspaceInvite, other]

theorem mem_all (route : Route) : route ∈ all := by
  cases route <;> decide

variable (config : RuntimeConfig)

def limit (route : Route) : Nat := route.options.limit.getD config.apiRateLimit

def windowSeconds (route : Route) : Int :=
  route.options.windowSeconds.getD config.apiRateWindowSeconds

def bucket (route : Route) : String := route.options.bucket.getD "api"

/-- The guard limits the route. -/
def Limited (route : Route) : Prop :=
  route.skip = false ∧ 0 < route.limit config

instance (route : Route) : Decidable (route.Limited config) :=
  inferInstanceAs (Decidable (_ ∧ _))

theorem windowSeconds_pos (route : Route) : 0 < route.windowSeconds config := by
  have default := config.apiRateWindowSeconds_pos
  cases route <;> simp [windowSeconds, options] <;> omega

end Route

/-- A request, and the identity its token stands for. -/
structure HttpRequest where
  ip : Option String
  remoteAddress : Option String
  user : Option Nat := none
  bearer : Nat
  deriving DecidableEq, Repr

/-- `request.ip || request.socket.remoteAddress || 'unknown'`. -/
def HttpRequest.address (request : HttpRequest) : String :=
  ((request.ip.filter (· ≠ "")).or
    (request.remoteAddress.filter (· ≠ ""))).getD "unknown"

/-- A request on its way through the guards. -/
structure HttpExchange where
  request : HttpRequest
  headers : List (String × String) := []
  storage : Storage

abbrev Guard := HttpExchange → Except Failure Unit × HttpExchange

/-- Nest, which runs the guards one after the other until one refuses. -/
def runGuards : List Guard → Guard
  | [], exchange => (.ok (), exchange)
  | guard :: rest, exchange =>
      match guard exchange with
      | (.ok (), next) => runGuards rest next
      | (.error failure, next) => (.error failure, next)

namespace RateLimitGuard

variable (config : RuntimeConfig) (sha256 : String → String)

def counterKey (request : HttpRequest) (route : Route) : String :=
  let userPart := (request.user.map fun id => ":u" ++ toString id).getD ""
  route.bucket ++ ":" ++ sha256 request.address ++ userPart

def canActivate (now : Int) (route : Route) : Guard := fun exchange =>
  if route.skip then (.ok (), exchange)
  else if route.limit config ≤ 0 then (.ok (), exchange)
  else
    let limit := route.limit config
    match exchange.storage.consume config.keyPrefix now
      (counterKey sha256 exchange.request route)
      (route.windowSeconds config) with
    | (.error failure, storage) => (.error failure, { exchange with storage })
    | (.ok window, storage) =>
        let headers := exchange.headers ++
          [("X-RateLimit-Limit", toString limit),
            ("X-RateLimit-Remaining", toString (limit - window.count)),
            ("X-RateLimit-Reset", toString window.retryAfter)]
        if limit < window.count then
          (.error (.http 429 "Too many requests. Please try again later." []),
            { exchange with
              storage
              headers :=
                headers ++ [("Retry-After", toString window.retryAfter)] })
        else (.ok (), { exchange with storage, headers })

end RateLimitGuard

/-- `AuthGuard('jwt')` of `@nestjs/passport` on a request with a valid token:
it attaches the identity that `JwtStrategy.validate` returns. -/
def JwtAuthGuard.canActivate : Guard := fun exchange =>
  (.ok (), { exchange with
    request := { exchange.request with user := some exchange.request.bearer } })

/-- Global guards come before those of the controller. -/
def passGuards (config : RuntimeConfig) (sha256 : String → String) (now : Int)
    (route : Route) : Guard :=
  runGuards [RateLimitGuard.canActivate config sha256 now route,
    JwtAuthGuard.canActivate]

/-- A request with a valid token of a user. -/
structure Arrival where
  time : Int
  route : Route
  user : Nat
  deriving DecidableEq, Repr

section Traffic

variable (config : RuntimeConfig) (sha256 : String → String) (ip : String)

def Arrival.request (arrival : Arrival) : HttpRequest :=
  { ip := some ip, remoteAddress := none, bearer := arrival.user }

/-- Whether the guards let the request through. -/
def arrive (arrival : Arrival) (storage : Storage) : Bool × Storage :=
  let (result, exchange) := passGuards config sha256 arrival.time arrival.route
    { request := arrival.request ip, storage }
  (result.isOk, exchange.storage)

/-- The requests with their outcomes. -/
def serveAll : List Arrival → Storage → List (Arrival × Bool)
  | [], _ => []
  | arrival :: rest, storage =>
      let (admitted, after) := arrive config sha256 ip arrival storage
      (arrival, admitted) :: serveAll rest after

/-- What happens to the user is what would happen without the others. -/
def Independent (initial : Storage) (arrivals : List Arrival) (user : Nat) :
    Prop :=
  (serveAll config sha256 ip arrivals initial).filter
      (fun served => served.1.user = user) =
    serveAll config sha256 ip (arrivals.filter fun arrival =>
      arrival.user = user) initial

/-- The key every request of the address is counted under. -/
def routeKey (route : Route) : String :=
  RateLimitGuard.counterKey sha256 (Arrival.request ip ⟨0, route, 0⟩) route

end Traffic

variable {config : RuntimeConfig} {sha256 : String → String} {ip : String}

theorem routeKey_eq_iff {left right : Route} :
    routeKey sha256 ip left = routeKey sha256 ip right ↔
      left.bucket = right.bucket := by
  constructor
  · intro same
    have lists := congrArg String.toList same
    simp only [routeKey, RateLimitGuard.counterKey, Arrival.request,
      HttpRequest.address, String.toList_append, List.append_assoc,
      List.append_cancel_right_eq] at lists
    exact String.toList_inj.mp lists
  · intro same
    simp only [routeKey, RateLimitGuard.counterKey, same]
    rfl

theorem arrive_unlimited {arrival : Arrival} {storage : Storage}
    (free : ¬arrival.route.Limited config) :
    arrive config sha256 ip arrival storage = (true, storage) := by
  unfold Route.Limited at free
  cases skipped : arrival.route.skip with
  | true => simp [arrive, passGuards, runGuards, RateLimitGuard.canActivate, skipped,
      JwtAuthGuard.canActivate, Except.isOk, Except.toBool]
  | false =>
      have unlimited : arrival.route.limit config ≤ 0 := by
        by_contra positive
        exact free ⟨skipped, by omega⟩
      simp [arrive, passGuards, runGuards, RateLimitGuard.canActivate, skipped,
        Nat.le_zero.mp unlimited, JwtAuthGuard.canActivate, Except.isOk,
        Except.toBool]

/-- A request of whatever user is counted under the key of its route. -/
theorem arrive_eq {arrival : Arrival} {storage : Storage}
    (limited : arrival.route.Limited config) :
    arrive config sha256 ip arrival storage =
      let (result, after) := storage.consume config.keyPrefix arrival.time
        (routeKey sha256 ip arrival.route) (arrival.route.windowSeconds config)
      ((result.map fun window =>
        decide (window.count ≤ arrival.route.limit config)).toOption.getD false,
        after) := by
  have bounded : ¬arrival.route.limit config ≤ 0 := Nat.not_le.mpr limited.2
  have keyed : RateLimitGuard.counterKey sha256 (arrival.request ip)
      arrival.route = routeKey sha256 ip arrival.route := rfl
  simp only [arrive, passGuards, runGuards, RateLimitGuard.canActivate, limited.1,
    bounded, keyed, Bool.false_eq_true, ↓reduceIte]
  rcases storage.consume config.keyPrefix arrival.time
    (routeKey sha256 ip arrival.route) (arrival.route.windowSeconds config) with
    ⟨failure | window, after⟩
  · rfl
  · by_cases beyond : arrival.route.limit config < window.count
    · have refused : ¬window.count ≤ arrival.route.limit config := by omega
      simp [beyond, refused, Except.map, Except.toOption, Except.isOk, Except.toBool]
    · have admitted : window.count ≤ arrival.route.limit config := by omega
      simp [beyond, admitted, JwtAuthGuard.canActivate, Except.map,
        Except.toOption, Except.isOk, Except.toBool]

theorem arrive_limited (sha256 : String → String) (ip : String)
    (arrival : Arrival) {storage : Storage}
    (limited : arrival.route.Limited config) (sound : storage.Sound)
    (room : storage.Roomy arrival.time) :
    let before := storage.counter config.keyPrefix arrival.time
      (routeKey sha256 ip arrival.route)
    let next := OpenWindow.next arrival.time (arrival.route.windowSeconds config)
      before
    let result := arrive config sha256 ip arrival storage
    result.1 = decide (next.count ≤ arrival.route.limit config) ∧
      ∃ window, Storage.Counted config.keyPrefix arrival.time
        (routeKey sha256 ip arrival.route) (arrival.route.windowSeconds config)
        storage result.2 window := by
  intro before next result
  obtain ⟨window, answered, counted⟩ :=
    Storage.consume_counted config.keyPrefix (routeKey sha256 ip arrival.route)
      (arrival.route.windowSeconds_pos config) sound (.inl room)
  have served : result = _ := arrive_eq limited
  rw [served]
  refine ⟨?_, window, counted⟩
  simp only [answered, Except.map, Except.toOption, Option.getD_some,
    counted.count]
  rfl

/-- There are never more counters than routes. -/
theorem roomy {now : Int} {storage : Storage}
    (confined : storage.names ⊆ Route.all.map (routeKey sha256 ip)) :
    storage.Roomy now := by
  refine Storage.roomy_of_names ?_ confined
  rw [List.length_map]
  decide

/-- What `arrive` counts does not depend on the user. -/
theorem arrive_names {arrival : Arrival} {storage : Storage}
    (confined : storage.names ⊆ Route.all.map (routeKey sha256 ip)) :
    (arrive config sha256 ip arrival storage).2.names ⊆
      Route.all.map (routeKey sha256 ip) := by
  by_cases limited : arrival.route.Limited config
  · rw [arrive_eq limited]
    refine List.Subset.trans Storage.consume_names
      (List.cons_subset.mpr ⟨?_, confined⟩)
    exact List.mem_map_of_mem arrival.route.mem_all
  · rw [arrive_unlimited limited]
    exact confined

theorem arrive_sound {arrival : Arrival} {storage : Storage}
    (sound : storage.Sound) :
    (arrive config sha256 ip arrival storage).2.Sound := by
  by_cases limited : arrival.route.Limited config
  · rw [arrive_eq limited]
    exact Storage.consume_sound sound
  · rw [arrive_unlimited limited]
    exact sound

/-- No other user of the address uses a limited route of a bucket the user
uses. -/
def Apart (config : RuntimeConfig) (uses : Nat → Route → Prop) (user : Nat) :
    Prop :=
  ∀ own route other, uses user own → own.Limited config → uses other route →
    route.Limited config → other ≠ user → route.bucket ≠ own.bucket

/-- The storage of the address, and the storage the user would find alone. -/
structure Paired (config : RuntimeConfig) (sha256 : String → String)
    (ip : String) (uses : Nat → Route → Prop) (user : Nat) (now : Int)
    (full own : Storage) : Prop where
  fullSound : full.Sound
  ownSound : own.Sound
  fullNames : full.names ⊆ Route.all.map (routeKey sha256 ip)
  ownNames : own.names ⊆ Route.all.map (routeKey sha256 ip)
  shared : ∀ route, uses user route → route.Limited config →
    full.counter config.keyPrefix now (routeKey sha256 ip route) =
      own.counter config.keyPrefix now (routeKey sha256 ip route)

namespace Paired

variable {uses : Nat → Route → Prop} {user : Nat} {now : Int}
  {full own : Storage}

theorem later {later : Int} (ordered : now ≤ later)
    (paired : Paired config sha256 ip uses user now full own) :
    Paired config sha256 ip uses user later full own :=
  { paired with
    shared := fun route used limited => by
      rw [Storage.counter_later ordered, Storage.counter_later ordered,
        paired.shared route used limited] }

/-- The user's own request is answered alike on both sides. -/
theorem own_step {arrival : Arrival} (mine : arrival.user = user)
    (used : uses arrival.user arrival.route)
    (paired : Paired config sha256 ip uses user arrival.time full own) :
    (arrive config sha256 ip arrival full).1 =
        (arrive config sha256 ip arrival own).1 ∧
      Paired config sha256 ip uses user arrival.time
        (arrive config sha256 ip arrival full).2
        (arrive config sha256 ip arrival own).2 := by
  by_cases limited : arrival.route.Limited config
  · have shared := paired.shared arrival.route (mine ▸ used) limited
    obtain ⟨fullResult, _, fullCounted⟩ := arrive_limited sha256 ip arrival limited
      paired.fullSound (roomy paired.fullNames)
    obtain ⟨ownResult, _, ownCounted⟩ := arrive_limited sha256 ip arrival limited paired.ownSound
      (roomy paired.ownNames)
    refine ⟨?_, arrive_sound paired.fullSound, arrive_sound paired.ownSound,
      arrive_names paired.fullNames, arrive_names paired.ownNames, ?_⟩
    · rw [fullResult, ownResult, shared]
    · intro route used limited
      rw [fullCounted.counters, ownCounted.counters, shared,
        paired.shared route used limited]
  · rw [arrive_unlimited limited, arrive_unlimited limited]
    exact ⟨rfl, paired⟩

/-- The request of another user does not touch the user's windows. -/
theorem other_step {arrival : Arrival} (apart : Apart config uses user)
    (foreign : arrival.user ≠ user) (used : uses arrival.user arrival.route)
    (paired : Paired config sha256 ip uses user arrival.time full own) :
    Paired config sha256 ip uses user arrival.time
      (arrive config sha256 ip arrival full).2 own := by
  by_cases limited : arrival.route.Limited config
  · obtain ⟨-, _, counted⟩ := arrive_limited sha256 ip arrival limited paired.fullSound
      (roomy paired.fullNames)
    refine ⟨arrive_sound paired.fullSound, paired.ownSound,
      arrive_names paired.fullNames, paired.ownNames, ?_⟩
    intro route mine isLimited
    have different : routeKey sha256 ip route ≠
        routeKey sha256 ip arrival.route := by
      intro same
      exact apart route arrival.route arrival.user mine isLimited used limited
        foreign (routeKey_eq_iff.mp same).symm
    rw [counted.counters, if_neg different]
    exact paired.shared route mine isLimited
  · rw [arrive_unlimited limited]
    exact paired

theorem filter_serveAll (apart : Apart config uses user)
    {arrivals : List Arrival}
    (started : ∀ arrival ∈ arrivals, now ≤ arrival.time)
    (ordered : (arrivals.map Arrival.time).Pairwise (· ≤ ·))
    (allowed : ∀ arrival ∈ arrivals, uses arrival.user arrival.route)
    (paired : Paired config sha256 ip uses user now full own) :
    (serveAll config sha256 ip arrivals full).filter
        (fun served => served.1.user = user) =
      serveAll config sha256 ip (arrivals.filter fun arrival =>
        arrival.user = user) own := by
  induction arrivals generalizing now full own with
  | nil => rfl
  | cons arrival rest ih =>
      rw [List.map_cons, List.pairwise_cons] at ordered
      rw [List.forall_mem_cons] at allowed
      have after : ∀ other ∈ rest, arrival.time ≤ other.time :=
        fun other member => ordered.1 _ (List.mem_map_of_mem member)
      have here := paired.later (started arrival List.mem_cons_self)
      rw [serveAll]
      by_cases mine : arrival.user = user
      · obtain ⟨same, next⟩ := own_step mine allowed.1 here
        rw [List.filter_cons_of_pos (by simpa using mine),
          List.filter_cons_of_pos (by simpa using mine), serveAll, same]
        exact congrArg _ (ih after ordered.2 allowed.2 next)
      · rw [List.filter_cons_of_neg (by simpa using mine),
          List.filter_cons_of_neg (by simpa using mine)]
        exact ih after ordered.2 allowed.2
          (other_step apart mine allowed.1 here)

theorem initially (mode : RedisMode) :
    Paired config sha256 ip uses user now (.start mode) (.start mode) where
  fullSound := Storage.sound_start mode
  ownSound := Storage.sound_start mode
  fullNames := Storage.names_start mode ▸ List.nil_subset _
  ownNames := Storage.names_start mode ▸ List.nil_subset _
  shared _ _ _ := rfl

end Paired

/-- Requests of one user fill the window of everybody. -/
theorem serveAll_replicate (arrival : Arrival) {user : Nat}
    (limited : arrival.route.Limited config) (foreign : arrival.user ≠ user)
    (times : Nat) {storage : Storage} (sound : storage.Sound)
    (confined : storage.names ⊆ Route.all.map (routeKey sha256 ip))
    (rest : List Arrival) :
    ∃ after : Storage, after.Sound ∧
      after.names ⊆ Route.all.map (routeKey sha256 ip) ∧
      ((after.counter config.keyPrefix arrival.time
          (routeKey sha256 ip arrival.route)).map OpenWindow.count).getD 0 =
        ((storage.counter config.keyPrefix arrival.time
          (routeKey sha256 ip arrival.route)).map OpenWindow.count).getD 0 +
          times ∧
      (serveAll config sha256 ip (List.replicate times arrival ++ rest)
          storage).filter (fun served => served.1.user = user) =
        (serveAll config sha256 ip rest after).filter
          fun served => served.1.user = user := by
  induction times generalizing storage with
  | zero => exact ⟨storage, sound, confined, rfl, rfl⟩
  | succ times ih =>
      obtain ⟨-, _, counted⟩ := arrive_limited sha256 ip arrival limited sound (roomy confined)
      obtain ⟨after, afterSound, afterConfined, count, served⟩ :=
        ih (arrive_sound sound) (arrive_names confined)
      refine ⟨after, afterSound, afterConfined, ?_, ?_⟩
      · rw [count, counted.counters, if_pos rfl, Option.map_some,
          Option.getD_some, OpenWindow.next_count]
        omega
      · rw [List.replicate_succ, List.cons_append, serveAll,
          List.filter_cons_of_neg (by simpa using foreign)]
        exact served

/-- One shared bucket is enough for the others to lock the user out. -/
theorem not_independent (config : RuntimeConfig) (sha256 : String → String)
    (ip : String) (mode : RedisMode) {user other : Nat} (own route : Route)
    (ownLimited : own.Limited config) (limited : route.Limited config)
    (foreign : other ≠ user) (same : route.bucket = own.bucket) :
    ¬Independent config sha256 ip (.start mode)
      (List.replicate (own.limit config) ⟨0, route, other⟩ ++ [⟨0, own, user⟩])
      user := by
  have empty : (Storage.start mode).names ⊆ Route.all.map (routeKey sha256 ip) :=
    Storage.names_start mode ▸ List.nil_subset _
  have sound := Storage.sound_start mode
  have keys : routeKey sha256 ip route = routeKey sha256 ip own :=
    routeKey_eq_iff.mpr same
  obtain ⟨after, afterSound, afterConfined, count, served⟩ :=
    serveAll_replicate ⟨0, route, other⟩ limited foreign
      (own.limit config) sound empty [⟨0, own, user⟩]
  obtain ⟨together, -⟩ := arrive_limited sha256 ip
    ⟨0, own, user⟩ ownLimited afterSound (roomy afterConfined)
  obtain ⟨alone, -⟩ := arrive_limited sha256 ip
    ⟨0, own, user⟩ ownLimited sound (roomy empty)
  have full : ((after.counter config.keyPrefix 0
      (routeKey sha256 ip own)).map OpenWindow.count).getD 0 =
        own.limit config := by
    rw [Storage.counter_start, keys] at count
    exact count.trans (Nat.zero_add _)
  have refused : (arrive config sha256 ip ⟨0, own, user⟩ after).1 = false := by
    rw [together, OpenWindow.next_count]
    dsimp only
    rw [full]
    exact decide_eq_false (Nat.not_succ_le_self _)
  have admitted :
      (arrive config sha256 ip ⟨0, own, user⟩ (.start mode)).1 = true := by
    rw [alone, OpenWindow.next_count, Storage.counter_start]
    exact decide_eq_true ownLimited.2
  have mine : (List.replicate (own.limit config) (⟨0, route, other⟩ : Arrival) ++
      [(⟨0, own, user⟩ : Arrival)]).filter (fun arrival => arrival.user = user) =
        [⟨0, own, user⟩] := by
    simp [foreign]
  intro independent
  rw [Independent, served, mine] at independent
  simp only [serveAll, refused, admitted, List.filter_cons, decide_true,
    List.filter_nil] at independent
  cases independent

/-- The outcomes of a user are her own in all traffic of an address exactly
when no other user of the address shares a bucket with her. -/
theorem independent_iff_apart (config : RuntimeConfig)
    (sha256 : String → String) (ip : String) (mode : RedisMode)
    (uses : Nat → Route → Prop) (user : Nat) :
    (∀ arrivals : List Arrival,
      (arrivals.map Arrival.time).Pairwise (· ≤ ·) →
      (∀ arrival ∈ arrivals, uses arrival.user arrival.route) →
      Independent config sha256 ip (.start mode) arrivals user) ↔
    Apart config uses user := by
  constructor
  · intro independent own route other used ownLimited otherUses limited foreign
      same
    refine not_independent config sha256 ip mode own route ownLimited limited
      foreign same (independent _ ?_ ?_)
    · simp only [List.map_append, List.map_replicate, List.pairwise_append]
      simp
    · intro arrival member
      rcases List.mem_append.mp member with listed | listed
      · rw [List.eq_of_mem_replicate listed]
        exact otherUses
      · rw [List.mem_singleton.mp listed]
        exact used
  · intro apart arrivals ordered allowed
    cases arrivals with
    | nil => rfl
    | cons first rest =>
        have paired : Paired config sha256 ip uses user first.time
            (.start mode) (.start mode) := .initially mode
        refine paired.filter_serveAll apart ?_ ordered allowed
        rw [List.map_cons, List.pairwise_cons] at ordered
        exact List.forall_mem_cons.mpr ⟨le_rfl, fun later member =>
          ordered.1 _ (List.mem_map_of_mem member)⟩

/-- The counterpart of a default deployment. -/
def defaultConfig : RuntimeConfig where
  keyPrefix := "enterprise"
  rateLimit := 20
  rateWindowSeconds := 60
  apiRateLimit := 120
  apiRateWindowSeconds := 60
  rateLimit_pos := by decide
  rateWindowSeconds_pos := by decide
  apiRateWindowSeconds_pos := by decide

/-- After twenty creations by user 1 the first one of user 2 is refused. -/
theorem neighbour_locks_out :
    ¬Independent defaultConfig (fun text => text) "10.0.0.1" (.start .cluster)
      (List.replicate 20 ⟨0, .workspaceCreate, 1⟩ ++ [⟨0, .workspaceCreate, 2⟩])
      2 :=
  not_independent defaultConfig _ _ .cluster .workspaceCreate .workspaceCreate
    (by decide) (by decide) (by decide) rfl

end SaasFoundation
