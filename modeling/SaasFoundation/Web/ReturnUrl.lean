import SaasFoundation.Web.Url

/-!
# `core/util/return-url.ts`

The tests look at the text as it stands, while a browser drops characters and
takes a backslash for a slash before it looks.
-/

namespace SaasFoundation

def FALLBACK : String := "/start"

/-- The tests of both functions on a text that is not empty. -/
def acceptsUrl (url : String) : Bool :=
  "/".toList.isPrefixOf url.toList && !"//".toList.isPrefixOf url.toList &&
    !"/login".toList.isPrefixOf url.toList

def safeReturnUrl (url : Option String) (fallback : String := FALLBACK) :
    String :=
  match url.filter (· ≠ "") with
  | none => fallback
  | some url => if acceptsUrl url then url else fallback

def isAppReturnUrl (url : Option String) : Bool :=
  match url.filter (· ≠ "") with
  | none => false
  | some url => acceptsUrl url

theorem toList_of_acceptsUrl {url : String} (accepted : acceptsUrl url = true) :
    ∃ rest, url.toList = '/' :: rest := by
  unfold acceptsUrl at accepted
  rw [Bool.and_eq_true, Bool.and_eq_true] at accepted
  obtain ⟨rest, text⟩ := List.isPrefixOf_iff_prefix.mp accepted.1.1
  exact ⟨rest, text.symm⟩

theorem isAppReturnUrl_some {url : String} :
    isAppReturnUrl (some url) = acceptsUrl url := by
  unfold isAppReturnUrl
  by_cases empty : url = ""
  · subst empty
    rfl
  · simp [Option.filter, empty]

theorem safeReturnUrl_some {url : String} :
    safeReturnUrl (some url) = if acceptsUrl url then url else FALLBACK := by
  unfold safeReturnUrl
  by_cases empty : url = ""
  · subst empty
    rfl
  · simp [Option.filter, empty]

/-- Every url the functions let through stays with the application. -/
structure StaysInApp {Host : Type} (parseHost : List Char → Option Host)
    (base : Url.Origin Host) (url : String) : Prop where
  safe : Url.resolve parseHost base (safeReturnUrl (some url)) = some base
  accepted : isAppReturnUrl (some url) = true →
    Url.resolve parseHost base url = some base

/-- A url stays with the application when the tests reject it, when no second
slash or backslash comes after the first in what a browser reads of it, or when
the authority behind them is that of the application. -/
theorem staysInApp_iff {Host : Type} (parseHost : List Char → Option Host)
    (base : Url.Origin Host) (url : String) :
    StaysInApp parseHost base url ↔
      (acceptsUrl url = true → ∀ authority ∈ Url.authority url,
        Url.parseAuthority parseHost base.scheme authority = some base) := by
  have own : acceptsUrl url = true →
      (Url.resolve parseHost base url = some base ↔
        ∀ authority ∈ Url.authority url,
          Url.parseAuthority parseHost base.scheme authority = some base) := by
    intro accepted
    obtain ⟨rest, text⟩ := toList_of_acceptsUrl accepted
    rw [Url.resolve_of_slash text]
    cases Url.authority url with
    | none => simp
    | some authority => simp
  constructor
  · intro stays accepted
    exact (own accepted).mp
      (stays.accepted (isAppReturnUrl_some.trans accepted))
  · intro condition
    constructor
    · rw [safeReturnUrl_some]
      by_cases accepted : acceptsUrl url = true
      · rw [if_pos accepted]
        exact (own accepted).mpr (condition accepted)
      · rw [if_neg accepted]
        rfl
    · intro accepted
      rw [isAppReturnUrl_some] at accepted
      exact (own accepted).mpr (condition accepted)

namespace Sample

/-- The application at `https://app.test`; host names stand for themselves. -/
def application : Url.Origin (List Char) where
  scheme := .https
  host := "app.test".toList
  port := none

end Sample

/-- A backslash, and a tab between two slashes, both lead elsewhere. -/
theorem backslash_leaves_app :
    safeReturnUrl (some "/\\evil.test") = "/\\evil.test" ∧
      isAppReturnUrl (some "/\\evil.test") = true ∧
      Url.resolve some Sample.application "/\\evil.test" =
        some { Sample.application with host := "evil.test".toList } ∧
      ¬StaysInApp some Sample.application "/\\evil.test" ∧
      ¬StaysInApp some Sample.application "/\t/evil.test" := by
  refine ⟨by decide +kernel, by decide +kernel, by decide +kernel, ?_, ?_⟩
  · intro stays
    exact absurd stays.safe (by decide +kernel)
  · intro stays
    exact absurd stays.safe (by decide +kernel)

end SaasFoundation
