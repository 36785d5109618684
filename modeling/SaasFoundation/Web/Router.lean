import Mathlib.Data.List.Basic

/-!
# Route tables

The recognition of a router that tries the routes of a level in order, first
match wins, and backtracks out of a group none of whose routes match.  A
redirect of a level is followed once within its level.  The guards on the way
to the page are asked afterwards, those of the outer routes first; the first
one that objects sends the navigation elsewhere.
-/

namespace Router

inductive Segment where
  | literal (name : String)
  | param
  deriving DecidableEq, Repr

/-- `full` stands for `pathMatch: 'full'`. -/
inductive Path where
  | segments (path : List Segment) (full : Bool)
  | wildcard
  deriving DecidableEq, Repr

/-- The rest of a url behind a path. -/
def consume : List Segment → List String → Option (List String)
  | [], url => some url
  | _ :: _, [] => none
  | .literal name :: path, segment :: url =>
      if segment = name then consume path url else none
  | .param :: path, _ :: url => consume path url

def Path.rest : Path → List String → Option (List String)
  | .wildcard, _ => some []
  | .segments path full, url =>
      (consume path url).filter fun rest => !full || rest.isEmpty

/-- Routes with guards `γ` and pages `π`. -/
inductive Route (γ π : Type) where
  | page (path : Path) (guards : List γ) (page : π)
  | redirect (path : Path) (target : List String)
  | group (path : Path) (guards childGuards : List γ)
      (children : List (Route γ π))

variable {γ π : Type}

mutual

/-- The guards on the way to the page of a url, and the page.  `again` resolves
what a redirect leads to. -/
def Route.resolve (again : List String → Option (List γ × π))
    (inherited : List γ) (url : List String) :
    Route γ π → Option (List γ × π)
  | .page path guards page =>
      (path.rest url).bind fun rest =>
        if rest = [] then some (inherited ++ guards, page) else none
  | .redirect path target =>
      (path.rest url).bind fun rest => again (target ++ rest)
  | .group path guards childGuards children =>
      (path.rest url).bind fun rest =>
        (resolveIn
          (fun url =>
            resolveIn (fun _ => none) (inherited ++ childGuards) url children)
          (inherited ++ childGuards) rest children).map
          fun found => (inherited ++ guards ++ found.1, found.2)

def resolveIn (again : List String → Option (List γ × π))
    (inherited : List γ) (url : List String) :
    List (Route γ π) → Option (List γ × π)
  | [] => none
  | route :: routes =>
      (route.resolve again inherited url).or
        (resolveIn again inherited url routes)

end

def recognize (routes : List (Route γ π)) (url : List String) :
    Option (List γ × π) :=
  resolveIn (fun url => resolveIn (fun _ => none) [] url routes) [] url routes

mutual

/-- Every page below a route, with the guards on the way to it. -/
def Route.leaves (inherited : List γ) : Route γ π → List (List γ × π)
  | .page _ guards page => [(inherited ++ guards, page)]
  | .redirect _ _ => []
  | .group _ guards childGuards children =>
      (leavesIn (inherited ++ childGuards) children).map fun found =>
        (inherited ++ guards ++ found.1, found.2)

def leavesIn (inherited : List γ) : List (Route γ π) → List (List γ × π)
  | [] => []
  | route :: routes => route.leaves inherited ++ leavesIn inherited routes

end

mutual

theorem Route.resolve_cases {again : List String → Option (List γ × π)}
    {inherited : List γ} {url : List String} {found : List γ × π}
    (route : Route γ π)
    (resolved : route.resolve again inherited url = some found) :
    found ∈ route.leaves inherited ∨ ∃ url, again url = some found := by
  cases route with
  | page path guards page =>
      rw [Route.resolve] at resolved
      obtain ⟨rest, _, opened⟩ := Option.bind_eq_some_iff.mp resolved
      split at opened
      · obtain rfl := Option.some.inj opened
        exact .inl (by simp [Route.leaves])
      · exact absurd opened (by simp)
  | redirect path target =>
      rw [Route.resolve] at resolved
      obtain ⟨rest, _, led⟩ := Option.bind_eq_some_iff.mp resolved
      exact .inr ⟨_, led⟩
  | group path guards childGuards children =>
      rw [Route.resolve] at resolved
      obtain ⟨rest, _, inside⟩ := Option.bind_eq_some_iff.mp resolved
      obtain ⟨inner, below, rfl⟩ := Option.map_eq_some_iff.mp inside
      refine .inl ?_
      rw [Route.leaves]
      apply List.mem_map_of_mem
      obtain listed | ⟨url, redirected⟩ := resolveIn_cases children below
      · exact listed
      · obtain listed | ⟨url, nothing⟩ := resolveIn_cases children redirected
        · exact listed
        · exact absurd nothing (by simp)

theorem resolveIn_cases {again : List String → Option (List γ × π)}
    {inherited : List γ} {url : List String} {found : List γ × π}
    (routes : List (Route γ π))
    (resolved : resolveIn again inherited url routes = some found) :
    found ∈ leavesIn inherited routes ∨ ∃ url, again url = some found := by
  cases routes with
  | nil =>
      rw [resolveIn] at resolved
      exact absurd resolved (by simp)
  | cons route routes =>
      rw [resolveIn] at resolved
      rw [leavesIn, List.mem_append]
      obtain first | ⟨_, later⟩ := Option.or_eq_some_iff.mp resolved
      · obtain listed | redirected := route.resolve_cases first
        · exact .inl (.inl listed)
        · exact .inr redirected
      · obtain listed | redirected := resolveIn_cases routes later
        · exact .inl (.inr listed)
        · exact .inr redirected

end

/-- What is recognized is a page of the table with its guards. -/
theorem recognize_mem {routes : List (Route γ π)} {url : List String}
    {found : List γ × π} (recognized : recognize routes url = some found) :
    found ∈ leavesIn [] routes := by
  obtain listed | ⟨_, redirected⟩ := resolveIn_cases routes recognized
  · exact listed
  · obtain listed | ⟨_, nothing⟩ := resolveIn_cases routes redirected
    · exact listed
    · exact absurd nothing (by simp)

/-- Resolves whatever it is given. -/
def Total (routes : List (Route γ π)) : Prop :=
  ∀ (again : List String → Option (List γ × π)) (inherited : List γ)
    (url : List String), (resolveIn again inherited url routes).isSome = true

theorem total_of_mem {routes : List (Route γ π)} {route : Route γ π}
    (member : route ∈ routes)
    (resolves : ∀ (again : List String → Option (List γ × π))
      (inherited : List γ) (url : List String),
      (route.resolve again inherited url).isSome = true) :
    Total routes := by
  intro again inherited url
  induction routes with
  | nil => exact absurd member List.not_mem_nil
  | cons first routes hypothesis =>
      rw [resolveIn, Option.isSome_or]
      obtain same | later := List.mem_cons.mp member
      · rw [← same, resolves, Bool.true_or]
      · rw [hypothesis later, Bool.or_true]

theorem total_of_wildcard {routes : List (Route γ π)} {guards : List γ}
    {page : π} (member : .page .wildcard guards page ∈ routes) :
    Total routes := by
  apply total_of_mem member
  intro again inherited url
  rw [Route.resolve]
  rfl

/-- A group without a path of its own over a table that is total. -/
theorem total_of_group {routes children : List (Route γ π)}
    {guards childGuards : List γ} (total : Total children)
    (member :
      .group (.segments [] false) guards childGuards children ∈ routes) :
    Total routes := by
  apply total_of_mem member
  intro again inherited url
  have rest : (Path.segments [] false).rest url = some url := rfl
  rw [Route.resolve, rest, Option.bind_some, Option.isSome_map]
  exact total _ _ _

theorem resolveIn_append {again : List String → Option (List γ × π)}
    {inherited : List γ} {url : List String} {front : List (Route γ π)}
    (total : Total front) (back : List (Route γ π)) :
    resolveIn again inherited url (front ++ back) =
      resolveIn again inherited url front := by
  have split : ∀ routes : List (Route γ π),
      resolveIn again inherited url (routes ++ back) =
        (resolveIn again inherited url routes).or
          (resolveIn again inherited url back) := by
    intro routes
    induction routes with
    | nil =>
        rw [List.nil_append, resolveIn]
        rfl
    | cons route routes hypothesis =>
        rw [List.cons_append, resolveIn, resolveIn, hypothesis, Option.or_assoc]
  obtain ⟨found, resolved⟩ :=
    Option.isSome_iff_exists.mp (total again inherited url)
  rw [split, resolved]
  rfl

/-- Routes behind a table that is total are never reached. -/
theorem recognize_append {front : List (Route γ π)} (total : Total front)
    (back : List (Route γ π)) (url : List String) :
    recognize (front ++ back) url = recognize front url := by
  unfold recognize
  rw [resolveIn_append total]
  congr 1
  funext url
  exact resolveIn_append total back

inductive Verdict where
  | pass
  | goTo (url : List String)
  deriving DecidableEq, Repr

section Navigate

variable (verdict : γ → Verdict)

/-- Where the first guard that objects sends the navigation. -/
def objection : List γ → Option (List String)
  | [] => none
  | guard :: guards =>
      match verdict guard with
      | .pass => objection guards
      | .goTo url => some url

/-- The page a navigation ends at, within a number of navigations. -/
def navigate (routes : List (Route γ π)) : Nat → List String → Option π
  | 0, _ => none
  | navigations + 1, url =>
      (recognize routes url).bind fun found =>
        match objection verdict found.1 with
        | none => some found.2
        | some elsewhere => navigate routes navigations elsewhere

end Navigate

variable {verdict : γ → Verdict} {routes : List (Route γ π)}

/-- One navigation. -/
theorem navigate_succ {guards : List γ} {page : π} {url : List String}
    (recognized : recognize routes url = some (guards, page))
    (navigations : Nat) :
    navigate verdict routes (navigations + 1) url =
      (objection verdict guards).elim (some page)
        (navigate verdict routes navigations) := by
  rw [navigate, recognized, Option.bind_some]
  cases objection verdict guards <;> rfl

theorem pass_of_objection {guards : List γ}
    (none_ : objection verdict guards = none) :
    ∀ guard ∈ guards, verdict guard = .pass := by
  induction guards with
  | nil => exact fun _ member => absurd member List.not_mem_nil
  | cons guard guards hypothesis =>
      rw [objection] at none_
      intro asked member
      cases answer : verdict guard with
      | goTo url =>
          rw [answer] at none_
          exact absurd none_ (by simp)
      | pass =>
          rw [answer] at none_
          obtain rfl | later := List.mem_cons.mp member
          · exact answer
          · exact hypothesis none_ asked later

theorem goTo_of_objection {guards : List γ} {url : List String}
    (objects : objection verdict guards = some url) :
    ∃ guard ∈ guards, verdict guard = .goTo url := by
  induction guards with
  | nil => exact absurd objects (by simp [objection])
  | cons guard guards hypothesis =>
      rw [objection] at objects
      cases answer : verdict guard with
      | goTo elsewhere =>
          rw [answer] at objects
          obtain rfl := Option.some.inj objects
          exact ⟨guard, List.mem_cons_self, answer⟩
      | pass =>
          rw [answer] at objects
          obtain ⟨asked, member, sent⟩ := hypothesis objects
          exact ⟨asked, List.mem_cons_of_mem _ member, sent⟩

section Pages

variable {pages : List (List γ × π)}
  (covers : ∀ url found, recognize routes url = some found → found ∈ pages)

include covers

/-- A page is only reached past all guards on the way to it. -/
theorem guards_of_navigate {navigations : Nat} {url : List String} {page : π}
    (reached : navigate verdict routes navigations url = some page) :
    ∃ guards, (guards, page) ∈ pages ∧
      ∀ guard ∈ guards, verdict guard = .pass := by
  induction navigations generalizing url with
  | zero => exact absurd reached (by simp [navigate])
  | succ navigations hypothesis =>
      rw [navigate] at reached
      obtain ⟨found, recognized, decided⟩ := Option.bind_eq_some_iff.mp reached
      cases objects : objection verdict found.1 with
      | none =>
          rw [objects] at decided
          obtain rfl := Option.some.inj decided
          exact ⟨found.1, covers url found recognized,
            pass_of_objection objects⟩
      | some elsewhere =>
          rw [objects] at decided
          exact hypothesis decided

/-- Where every place the guards may send to ends at a page, so does every
url, one navigation later. -/
theorem navigate_isSome {navigations : Nat}
    (total : ∀ url, (recognize routes url).isSome = true)
    (ends : ∀ found ∈ pages, ∀ guard ∈ found.1, ∀ url,
      verdict guard = .goTo url →
        (navigate verdict routes navigations url).isSome = true)
    (url : List String) :
    (navigate verdict routes (navigations + 1) url).isSome = true := by
  obtain ⟨found, recognized⟩ := Option.isSome_iff_exists.mp (total url)
  rw [navigate_succ recognized]
  cases objects : objection verdict found.1 with
  | none => rfl
  | some elsewhere =>
      obtain ⟨guard, member, sent⟩ := goTo_of_objection objects
      exact ends found (covers url found recognized) guard member elsewhere sent

end Pages

end Router
