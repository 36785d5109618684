import SaasFoundation.Utils.Record

/-!
# `utils/validation-options.ts`
-/

namespace SaasFoundation

/-- What the validator reports of one property.  An absent list counts as an
empty one. -/
inductive ValidationError where
  | report (property : String) (constraints : List (String × String))
      (children : List ValidationError)

namespace ValidationError

def property : ValidationError → String
  | report property _ _ => property

/-- `Object.values(constraints ?? {})`. -/
def messages : ValidationError → List String
  | report _ constraints _ => constraints.map Prod.snd

def children : ValidationError → List ValidationError
  | report _ _ children => children

end ValidationError

inductive ValidationErrorsTree where
  | message (text : String)
  | properties (entries : List (String × ValidationErrorsTree))

mutual

/-- The value under the property of one error. -/
def generateValue : ValidationError → ValidationErrorsTree
  | .report _ constraints children =>
      if 0 < children.length then .properties (reduceErrors [] children)
      else .message (", ".intercalate (constraints.map Prod.snd))

def reduceErrors (accumulator : List (String × ValidationErrorsTree)) :
    List ValidationError → List (String × ValidationErrorsTree)
  | [] => accumulator
  | currentValue :: rest =>
      reduceErrors (Record.define currentValue.property
        (generateValue currentValue) accumulator) rest

end

def generateErrors (errors : List ValidationError) :
    List (String × ValidationErrorsTree) :=
  reduceErrors [] errors

structure UnprocessableEntity where
  status : Nat
  errors : ValidationErrorsTree

namespace validationOptions

def exceptionFactory (errors : List ValidationError) : UnprocessableEntity where
  status := 422
  errors := .properties (generateErrors errors)

end validationOptions

/-- What is found under a path of properties. -/
def ValidationErrorsTree.find :
    ValidationErrorsTree → List String → Option ValidationErrorsTree
  | tree, [] => some tree
  | .message _, _ :: _ => none
  | .properties entries, property :: path =>
      (entries.lookup property).bind fun tree => tree.find path

/-- A path of properties leads to an error. -/
inductive Reports : List ValidationError → List String → ValidationError →
    Prop where
  | here {errors : List ValidationError} {error : ValidationError}
      (member : error ∈ errors) : Reports errors [error.property] error
  | nested {errors : List ValidationError} {parent error : ValidationError}
      {path : List String} (member : parent ∈ errors)
      (inside : Reports parent.children path error) :
      Reports errors (parent.property :: path) error

/-- Siblings have different properties. -/
inductive Distinct : List ValidationError → Prop where
  | intro {errors : List ValidationError}
      (here : (errors.map ValidationError.property).Nodup)
      (below : ∀ error ∈ errors, Distinct error.children) : Distinct errors

theorem Distinct.properties {errors : List ValidationError}
    (distinct : Distinct errors) :
    (errors.map ValidationError.property).Nodup := by
  cases distinct with
  | intro here below => exact here

theorem Distinct.children {errors : List ValidationError}
    {error : ValidationError} (distinct : Distinct errors)
    (member : error ∈ errors) : Distinct error.children := by
  cases distinct with
  | intro here below => exact below error member

theorem lookup_reduceErrors {errors : List ValidationError}
    {accumulator : List (String × ValidationErrorsTree)} {wanted : String}
    (distinct : (errors.map ValidationError.property).Nodup) :
    (reduceErrors accumulator errors).lookup wanted =
      match errors.find? fun error => error.property = wanted with
      | some error => some (generateValue error)
      | none => accumulator.lookup wanted := by
  induction errors generalizing accumulator with
  | nil => simp [reduceErrors]
  | cons error rest ih =>
      obtain ⟨notLater, restDistinct⟩ := List.nodup_cons.mp distinct
      unfold reduceErrors
      rw [ih restDistinct, Record.lookup_define]
      by_cases same : error.property = wanted
      · subst same
        have absent : (rest.find? fun other =>
            other.property = error.property) = none := by
          rw [List.find?_eq_none]
          intro other member hit
          exact notLater (List.mem_map.mpr ⟨other, member, by simpa using hit⟩)
        simp [absent]
      · simp [same, Ne.symm same]

theorem lookup_generateErrors_of_mem {errors : List ValidationError}
    {error : ValidationError} (distinct : Distinct errors)
    (member : error ∈ errors) :
    (generateErrors errors).lookup error.property =
      some (generateValue error) := by
  rw [generateErrors, lookup_reduceErrors distinct.properties]
  cases found : errors.find? fun other => other.property = error.property with
  | none =>
      have missing := List.find?_eq_none.mp found error member
      simp at missing
  | some other =>
      have named : other.property = error.property := by
        simpa using List.find?_some found
      have same : other = error := List.inj_on_of_nodup_map
        distinct.properties (List.mem_of_find?_eq_some found) member named
      rw [same]

theorem mem_of_lookup_generateErrors {errors : List ValidationError}
    {property : String} {tree : ValidationErrorsTree}
    (distinct : Distinct errors)
    (found : (generateErrors errors).lookup property = some tree) :
    ∃ error ∈ errors, error.property = property ∧
      tree = generateValue error := by
  rw [generateErrors, lookup_reduceErrors distinct.properties] at found
  cases searched : errors.find? fun error => error.property = property with
  | none =>
      rw [searched] at found
      cases found
  | some error =>
      rw [searched] at found
      exact ⟨error, List.mem_of_find?_eq_some searched,
        by simpa using List.find?_some searched, (Option.some.inj found).symm⟩

theorem generateValue_of_children {error : ValidationError}
    (some : error.children ≠ []) :
    generateValue error = .properties (generateErrors error.children) := by
  cases error with
  | report property constraints children =>
      unfold generateValue
      exact if_pos (List.length_pos_iff.mpr some)

theorem generateValue_of_leaf {error : ValidationError}
    (leaf : error.children = []) :
    generateValue error = .message (", ".intercalate error.messages) := by
  cases error with
  | report property constraints children =>
      obtain rfl : children = [] := leaf
      rfl

theorem Reports.ne_nil {errors : List ValidationError} {path : List String}
    {error : ValidationError} (reports : Reports errors path error) :
    errors ≠ [] := by
  cases reports with
  | here member => exact List.ne_nil_of_mem member
  | nested member => exact List.ne_nil_of_mem member

/-- Every error has the position its path leads to. -/
theorem find_of_reports {errors : List ValidationError} {path : List String}
    {error : ValidationError} (distinct : Distinct errors)
    (reports : Reports errors path error) :
    (ValidationErrorsTree.properties (generateErrors errors)).find path =
      some (generateValue error) := by
  induction reports with
  | here member =>
      unfold ValidationErrorsTree.find
      rw [lookup_generateErrors_of_mem distinct member]
      rfl
  | nested member inside ih =>
      have found := ih (distinct.children member)
      unfold ValidationErrorsTree.find
      rw [lookup_generateErrors_of_mem distinct member,
        generateValue_of_children inside.ne_nil]
      exact found

/-- Every position belongs to an error. -/
theorem reports_of_find {errors : List ValidationError} {property : String}
    {path : List String} {tree : ValidationErrorsTree}
    (distinct : Distinct errors)
    (found : (ValidationErrorsTree.properties (generateErrors errors)).find
      (property :: path) = some tree) :
    ∃ error, Reports errors (property :: path) error := by
  induction path generalizing errors property tree with
  | nil =>
      obtain ⟨value, found, -⟩ := Option.bind_eq_some_iff.mp found
      obtain ⟨error, member, rfl, -⟩ :=
        mem_of_lookup_generateErrors distinct found
      exact ⟨error, .here member⟩
  | cons next path ih =>
      obtain ⟨value, found, inner⟩ := Option.bind_eq_some_iff.mp found
      obtain ⟨parent, member, rfl, rfl⟩ :=
        mem_of_lookup_generateErrors distinct found
      by_cases leaf : parent.children = []
      · rw [generateValue_of_leaf leaf] at inner
        cases inner
      · rw [generateValue_of_children leaf] at inner
        obtain ⟨error, reports⟩ := ih (distinct.children member) inner
        exact ⟨error, .nested member reports⟩

/-- A text contains a message. -/
def Contains (text message : String) : Prop :=
  ∃ before after, text = before ++ message ++ after

theorem contains_intercalate {separator message : String}
    {messages : List String} (member : message ∈ messages) :
    Contains (separator.intercalate messages) message := by
  induction messages with
  | nil => exact absurd member List.not_mem_nil
  | cons first rest ih =>
      by_cases last : rest = []
      · subst last
        obtain rfl := List.mem_singleton.mp member
        exact ⟨"", "", by simp⟩
      · rw [String.intercalate_cons_of_ne_nil last]
        rcases List.mem_cons.mp member with rfl | later
        · exact ⟨"", separator ++ separator.intercalate rest,
            by simp [String.append_assoc]⟩
        · obtain ⟨before, after, same⟩ := ih later
          exact ⟨first ++ separator ++ before, after,
            by rw [same]; simp [String.append_assoc]⟩

/-- The body has every message at the position of its property, and no other
position. -/
structure Lossless (errors : List ValidationError) (body : ValidationErrorsTree) :
    Prop where
  kept : ∀ path error, Reports errors path error →
    ∀ message ∈ error.messages, ∃ text,
      body.find path = some (.message text) ∧ Contains text message
  nothingElse : ∀ path, (body.find path).isSome →
    path = [] ∨ ∃ error, Reports errors path error

/-- No message is lost unless an error with messages of its own has nested
errors. -/
theorem lossless_iff (errors : List ValidationError)
    (distinct : Distinct errors) :
    Lossless errors (validationOptions.exceptionFactory errors).errors ↔
      ∀ path error, Reports errors path error →
        error.messages = [] ∨ error.children = [] := by
  constructor
  · intro lossless path error reports
    by_cases leaf : error.children = []
    · exact .inr leaf
    · left
      rw [List.eq_nil_iff_forall_not_mem]
      intro message member
      obtain ⟨text, found, -⟩ := lossless.kept path error reports message member
      have position := find_of_reports distinct reports
      rw [generateValue_of_children leaf] at position
      exact nomatch found.symm.trans position
  · intro apart
    constructor
    · intro path error reports message member
      have leaf : error.children = [] :=
        (apart path error reports).resolve_left (List.ne_nil_of_mem member)
      have position := find_of_reports distinct reports
      rw [generateValue_of_leaf leaf] at position
      exact ⟨_, position, contains_intercalate member⟩
    · intro path found
      obtain ⟨tree, found⟩ := Option.isSome_iff_exists.mp found
      cases path with
      | nil => exact .inl rfl
      | cons property path => exact .inr (reports_of_find distinct found)

namespace Sample

/-- `filters={"roles":{"id":"x"}}`: an object in place of a list of roles, and
what is nested in it is wrong too. -/
def filters : List ValidationError :=
  [.report "filters" []
    [.report "roles" [("isArray", "roles must be an array")]
      [.report "id"
        [("isNumber",
          "id must be a number conforming to the specified constraints")]
        []]]]

/-- `page=0&limit=0`. -/
def paging : List ValidationError :=
  [.report "page" [("min", "page must not be less than 1")] [],
    .report "limit" [("min", "limit must not be less than 1")] []]

theorem distinct_leaf : Distinct [] :=
  .intro List.nodup_nil fun _ member => absurd member List.not_mem_nil

theorem distinct_filters : Distinct filters := by
  refine .intro (by decide) fun filters member => ?_
  obtain rfl := List.mem_singleton.mp member
  refine .intro (by decide) fun roles member => ?_
  obtain rfl := List.mem_singleton.mp member
  refine .intro (by decide) fun id member => ?_
  obtain rfl := List.mem_singleton.mp member
  exact distinct_leaf

theorem distinct_paging : Distinct paging := by
  refine .intro (by decide) fun error member => ?_
  simp only [paging, List.mem_cons, List.not_mem_nil, or_false] at member
  rcases member with rfl | rfl
  · exact distinct_leaf
  · exact distinct_leaf

end Sample

theorem lossless_iff_paging :
    Lossless Sample.paging
        (validationOptions.exceptionFactory Sample.paging).errors ↔
      ∀ path error, Reports Sample.paging path error →
        error.messages = [] ∨ error.children = [] :=
  lossless_iff Sample.paging Sample.distinct_paging

/-- The message about the list is not in the body. -/
theorem nested_errors_hide_message :
    Distinct Sample.filters ∧
      ¬Lossless Sample.filters
        (validationOptions.exceptionFactory Sample.filters).errors := by
  refine ⟨Sample.distinct_filters, fun lossless => ?_⟩
  obtain ⟨text, found, -⟩ := lossless.kept ["filters", "roles"] _
    (.nested List.mem_cons_self (.here List.mem_cons_self))
    "roles must be an array" List.mem_cons_self
  exact nomatch found

end SaasFoundation
