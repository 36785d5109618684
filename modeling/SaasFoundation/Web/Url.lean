import Mathlib.Data.List.Basic

/-!
# Resolving a reference against an http(s) URL

The states of the basic URL parser that decide the origin, from the no scheme
state on: a reference that begins with a letter may be read as an absolute URL
before and is not covered.  The host parser is a parameter.
-/

namespace Url

inductive Scheme where
  | http
  | https
  deriving DecidableEq, Repr

def Scheme.defaultPort : Scheme → Nat
  | .http => 80
  | .https => 443

/-- The port is null when it is the default one. -/
structure Origin (Host : Type) where
  scheme : Scheme
  host : Host
  port : Option Nat
  deriving DecidableEq, Repr

/-- C0 control or space. -/
def isControlOrSpace (char : Char) : Bool :=
  char.toNat ≤ 0x20

def isTabOrNewline (char : Char) : Bool :=
  char == '\t' || char == '\n' || char == '\r'

/-- Both are solidi in the URL of a special scheme. -/
def isSlash (char : Char) : Bool :=
  char == '/' || char == '\\'

/-- What ends the authority. -/
def endsAuthority (char : Char) : Bool :=
  isSlash char || char == '?' || char == '#'

/-- What the parser reads of its input. -/
def clean (input : String) : List Char :=
  (((input.toList.dropWhile isControlOrSpace).reverse.dropWhile
    isControlOrSpace).reverse).filter fun char => !isTabOrNewline char

section Authority

variable {Host : Type} (parseHost : List Char → Option Host) (scheme : Scheme)

/-- Host state: the text before the first colon outside of brackets, and what
comes after the colon. -/
def splitPort (insideBrackets : Bool) :
    List Char → List Char × Option (List Char)
  | [] => ([], none)
  | char :: rest =>
      if char = ':' ∧ insideBrackets = false then ([], some rest)
      else
        let inside :=
          if char = '[' then true
          else if char = ']' then false
          else insideBrackets
        (char :: (splitPort inside rest).1, (splitPort inside rest).2)

/-- Port state; `none` is failure. -/
def parsePort (text : List Char) : Option (Option Nat) :=
  if text.all Char.isDigit then
    if text = [] then some none
    else
      let port := text.foldl
        (fun value digit => value * 10 + (digit.toNat - '0'.toNat)) 0
      if 65535 < port then none
      else if port = scheme.defaultPort then some none
      else some (some port)
  else none

/-- Authority state: the text after the last `@`. -/
def dropCredentials (authority : List Char) : List Char :=
  (authority.reverse.takeWhile (· ≠ '@')).reverse

/-- Authority, host and port state; `none` is failure. -/
def parseAuthority (authority : List Char) : Option (Origin Host) :=
  let (text, port) := splitPort false (dropCredentials authority)
  if text = [] then none
  else do
    let host ← parseHost text
    let port ← parsePort scheme (port.getD [])
    some { scheme, host, port }

end Authority

section Resolve

variable {Host : Type} (parseHost : List Char → Option Host)
  (base : Origin Host)

/-- The authority behind two or more slashes. -/
def authorityOf (rest : List Char) : List Char :=
  (rest.dropWhile isSlash).takeWhile fun char => !endsAuthority char

/-- Relative slash state. -/
def resolveSlash : List Char → Option (Origin Host)
  | [] => some base
  | second :: rest =>
      if isSlash second then
        parseAuthority parseHost base.scheme (authorityOf rest)
      else some base

/-- Relative state. -/
def resolveRelative : List Char → Option (Origin Host)
  | [] => some base
  | first :: rest =>
      if isSlash first then resolveSlash parseHost base rest else some base

/-- The origin of the URL a reference without a scheme resolves to; `none` is
failure. -/
def resolve (reference : String) : Option (Origin Host) :=
  resolveRelative parseHost base (clean reference)

end Resolve

theorem dropWhile_reverse_concat {admits : Char → Bool} {first : Char}
    (kept : admits first = false) (rest : List Char) :
    ∃ shorter, (((first :: rest).reverse.dropWhile admits).reverse) =
      first :: shorter := by
  rw [List.reverse_cons, List.dropWhile_append]
  split
  · exact ⟨[], by simp [kept]⟩
  · exact ⟨(rest.reverse.dropWhile admits).reverse, by simp⟩

/-- A reference that begins with a slash is read from its slash on. -/
theorem clean_of_slash {reference : String} {rest : List Char}
    (text : reference.toList = '/' :: rest) :
    ∃ shorter, clean reference = '/' :: shorter := by
  have front : ('/' :: rest).dropWhile isControlOrSpace = '/' :: rest :=
    List.dropWhile_cons_of_neg (by decide)
  obtain ⟨shorter, back⟩ :=
    @dropWhile_reverse_concat isControlOrSpace '/' (by decide) rest
  refine ⟨shorter.filter fun char => !isTabOrNewline char, ?_⟩
  rw [clean, text, front, back]
  exact List.filter_cons_of_pos (by decide)

/-- The authority of a reference that begins with two slashes. -/
def authority (reference : String) : Option (List Char) :=
  match clean reference with
  | _ :: second :: rest =>
      if isSlash second then some (authorityOf rest) else none
  | _ => none

/-- A reference that begins with a slash resolves to the origin of the base
unless a second slash follows, and to that of its authority then. -/
theorem resolve_of_slash {Host : Type} {parseHost : List Char → Option Host}
    {base : Origin Host} {reference : String} {rest : List Char}
    (text : reference.toList = '/' :: rest) :
    resolve parseHost base reference =
      match authority reference with
      | some text => parseAuthority parseHost base.scheme text
      | none => some base := by
  obtain ⟨shorter, cleaned⟩ := clean_of_slash text
  have relative : resolveRelative parseHost base ('/' :: shorter) =
      resolveSlash parseHost base shorter := rfl
  unfold resolve authority
  rw [cleaned, relative]
  cases shorter with
  | nil => rfl
  | cons second others =>
      unfold resolveSlash
      dsimp only
      by_cases slash : isSlash second = true
      · rw [if_pos slash, if_pos slash]
      · rw [if_neg slash, if_neg slash]

end Url
