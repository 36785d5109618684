import SaasFoundation.Relational.Expiry
import SaasFoundation.Utils.Words

/-!
# Cookies of a user agent

The cookies a user agent keeps for one origin, as RFC 6265 stores them and
sends them back with a request from the same site, which `SameSite` admits in
any case.  Cookies of other hosts and paths are not sent and not kept here.
-/

namespace Cookies

open Relational SaasFoundation

/-- A cookie without an expiry lasts as long as the user agent runs. -/
structure Cookie where
  name : String
  value : String
  expires : Option Int := none
  deriving DecidableEq, Repr

instance : Keyed Cookie String where
  key := Cookie.name

@[simp] theorem Cookie.key_eq (cookie : Cookie) : key cookie = cookie.name :=
  rfl

def Cookie.isExpired (now : Int) (cookie : Cookie) : Bool :=
  cookie.expires.any (· ≤ now)

theorem Cookie.isExpired_later {cookie : Cookie} {now later : Int}
    (ordered : now ≤ later) (expired : cookie.isExpired now = true) :
    cookie.isExpired later = true := by
  obtain ⟨moment, stored, past⟩ := (Option.any_eq_true _ _).mp expired
  refine (Option.any_eq_true _ _).mpr ⟨moment, stored, ?_⟩
  simp only [decide_eq_true_eq] at past ⊢
  omega

instance : Expiring Cookie where
  expired := Cookie.isExpired
  expired_later := Cookie.isExpired_later

inductive SameSite where
  | strict
  | lax
  | none
  deriving DecidableEq, Repr

/-- A `Set-Cookie` header: the text before the first semicolon, and the
attributes behind it. -/
structure SetCookie where
  pair : String
  expires : Option Int := none
  maxAge : Option Int := none
  httpOnly : Bool := false
  secure : Bool := false
  sameSite : SameSite := .lax
  path : String := "/"
  deriving DecidableEq, Repr

namespace SetCookie

/-- The text before the first `=` sign. -/
def name (header : SetCookie) : String :=
  Text.trim (.ofList (header.pair.toList.takeWhile (· ≠ '=')))

def value (header : SetCookie) : String :=
  Text.trim (.ofList ((header.pair.toList.dropWhile (· ≠ '=')).drop 1))

/-- `Max-Age` counts in seconds and goes before `Expires`. -/
def expiry (header : SetCookie) (now : Int) : Option Int :=
  match header.maxAge with
  | some seconds => some (now + 1000 * seconds)
  | none => header.expires

/-- A name with the prefix `__Host-` is accepted under its conditions only. -/
def accepted (header : SetCookie) : Bool :=
  !"__Host-".toList.isPrefixOf header.name.toList ||
    header.secure && header.path == "/"

def cookie (header : SetCookie) (now : Int) : Cookie where
  name := header.name
  value := header.value
  expires := header.expiry now

end SetCookie

abbrev Jar := Table Cookie

/-- What the user agent makes of a `Set-Cookie` header. -/
def Jar.receive (jar : Jar) (now : Int) (header : SetCookie) : Jar :=
  if header.accepted then jar.put (header.cookie now) else jar

def Cookie.pair (cookie : Cookie) : String :=
  cookie.name ++ "=" ++ cookie.value

/-- The `Cookie` header of a request. -/
def Jar.header (jar : Jar) (now : Int) : Option String :=
  match (jar.sweep now).rows with
  | [] => none
  | cookies => some ("; ".intercalate (cookies.map Cookie.pair))

/-- A name that is not empty, does not begin with white space and holds no
`=` sign, and no semicolon anywhere. -/
structure Cookie.Proper (cookie : Cookie) : Prop where
  named : ∃ first rest, cookie.name.toList = first :: rest ∧
    Text.isSpace first = false
  plain : '=' ∉ cookie.name.toList
  whole : ';' ∉ cookie.pair.toList

theorem notSign_of_plain {name : List Char} (plain : '=' ∉ name) :
    ∀ char ∈ name, decide (char ≠ '=') = true := by
  intro char member
  rw [decide_eq_true_eq]
  intro same
  exact plain (same ▸ member)

theorem takeWhile_name {name rest : List Char} (plain : '=' ∉ name) :
    (name ++ '=' :: rest).takeWhile (· ≠ '=') = name := by
  rw [List.takeWhile_append_of_pos (notSign_of_plain plain)]
  simp

theorem dropWhile_name {name rest : List Char} (plain : '=' ∉ name) :
    (name ++ '=' :: rest).dropWhile (· ≠ '=') = '=' :: rest := by
  rw [List.dropWhile_append_of_pos (notSign_of_plain plain)]
  simp

theorem toList_pair (cookie : Cookie) :
    cookie.pair.toList = cookie.name.toList ++ '=' :: cookie.value.toList := by
  simp [Cookie.pair]

theorem rdropWhile_cons {rest : List Char} (separator : Char)
    (inside : Text.isSpace separator = false) (front : List Char) :
    (front ++ separator :: rest).rdropWhile Text.isSpace =
      front ++ separator :: rest.rdropWhile Text.isSpace := by
  induction rest using List.reverseRecOn with
  | nil =>
      rw [List.rdropWhile_concat, if_neg (by rw [inside]; decide)]
      rfl
  | append_singleton rest last hypothesis =>
      rw [← List.cons_append, ← List.append_assoc, List.rdropWhile_concat,
        List.rdropWhile_concat]
      by_cases space : Text.isSpace last = true
      · rw [if_pos space, if_pos space, hypothesis]
      · rw [if_neg space, if_neg space]
        simp

/-- Trimming a pair takes white space from the end of the value only. -/
theorem toList_trim_pair {cookie : Cookie} (proper : cookie.Proper) :
    (Text.trim cookie.pair).toList = cookie.name.toList ++
      '=' :: cookie.value.toList.rdropWhile Text.isSpace := by
  obtain ⟨first, rest, name, inside⟩ := proper.named
  have front : cookie.pair.toList.dropWhile Text.isSpace =
      cookie.pair.toList := by
    rw [toList_pair, name]
    simp [inside]
  rw [Text.toList_trim, front, toList_pair]
  exact rdropWhile_cons '=' (by decide) _

/-- A pair begins with a name and an `=` sign when the name is its own. -/
theorem startsWith_pair {cookie : Cookie} (proper : cookie.Proper)
    {name : String} (plain : '=' ∉ name.toList) :
    Text.startsWith (Text.trim cookie.pair) (name ++ "=") =
      decide (cookie.name = name) := by
  have sign : (name ++ "=").toList = name.toList ++ ['='] := by simp
  rw [Text.startsWith, toList_trim_pair proper, sign]
  by_cases same : cookie.name = name
  · rw [decide_eq_true same, same, List.isPrefixOf_iff_prefix]
    exact ⟨cookie.value.toList.rdropWhile Text.isSpace, by simp⟩
  · rw [decide_eq_false same, Bool.eq_false_iff]
    intro begins
    obtain ⟨rest, text⟩ := List.isPrefixOf_iff_prefix.mp begins
    rw [List.append_assoc, List.singleton_append] at text
    have names := congrArg (List.takeWhile (· ≠ '=')) text
    rw [takeWhile_name plain, takeWhile_name proper.plain] at names
    exact same (String.toList_inj.mp names.symm)

theorem intercalate_blank (first : List Char) (rest : List (List Char)) :
    [';', ' '].intercalate (first :: rest) =
      [';'].intercalate (first :: rest.map (' ' :: ·)) := by
  induction rest generalizing first with
  | nil => rfl
  | cons second rest hypothesis =>
      rw [List.map_cons, List.intercalate_cons_cons,
        List.intercalate_cons_cons, hypothesis]
      cases rest with
      | nil => simp
      | cons third rest =>
          simp [List.intercalate_cons_cons]

theorem trim_blank (text : List Char) :
    Text.trim (.ofList (' ' :: text)) = Text.trim (.ofList text) := by
  have blank : Text.isSpace ' ' = true := by decide
  rw [Text.trim, Text.trim, String.toList_ofList, String.toList_ofList,
    List.dropWhile_cons_of_pos blank]

/-- Between semicolons stand the pairs, up to white space. -/
theorem splitAt_header {cookies : List Cookie} (some : cookies ≠ [])
    (whole : ∀ cookie ∈ cookies, ';' ∉ cookie.pair.toList) :
    (Text.splitAt ';' ("; ".intercalate (cookies.map Cookie.pair))).map
        Text.trim =
      cookies.map fun cookie => Text.trim cookie.pair := by
  cases cookies with
  | nil => exact absurd rfl some
  | cons first rest =>
      have separator : "; ".toList = [';', ' '] := rfl
      have pieces : ∀ piece ∈ first.pair.toList ::
          (rest.map fun cookie => ' ' :: cookie.pair.toList), ';' ∉ piece := by
        intro piece member
        rw [List.mem_cons, List.mem_map] at member
        obtain rfl | ⟨cookie, listed, rfl⟩ := member
        · exact whole first List.mem_cons_self
        · intro inside
          rw [List.mem_cons] at inside
          obtain sign | inside := inside
          · exact absurd sign (by decide)
          · exact whole cookie (List.mem_cons_of_mem _ listed) inside
      have split := List.splitOn_intercalate ';' pieces (by simp)
      have texts : ("; ".intercalate
          ((first :: rest).map Cookie.pair)).toList =
          [';'].intercalate (first.pair.toList ::
            (rest.map fun cookie => ' ' :: cookie.pair.toList)) := by
        rw [String.toList_intercalate, separator, List.map_cons, List.map_cons,
          intercalate_blank, List.map_map, List.map_map]
        rfl
      rw [Text.splitAt, Text.splitList_eq_splitOnP,
        ← List.splitOn_eq_splitOnP, texts, split]
      simp only [List.map_cons, List.map_map, Function.comp_def, trim_blank,
        String.ofList_toList]

/-- The first piece that begins with a name is the cookie of that name. -/
theorem find_piece {cookies : List Cookie}
    (proper : ∀ cookie ∈ cookies, cookie.Proper) {name : String}
    (plain : '=' ∉ name.toList) :
    (cookies.map fun cookie => Text.trim cookie.pair).find?
        (Text.startsWith · (name ++ "=")) =
      (cookies.find? (·.name = name)).map fun cookie =>
        Text.trim cookie.pair := by
  induction cookies with
  | nil => rfl
  | cons cookie cookies hypothesis =>
      have own := startsWith_pair (proper cookie List.mem_cons_self) plain
      have others := hypothesis fun cookie member =>
        proper cookie (List.mem_cons_of_mem _ member)
      rw [List.map_cons, List.find?_cons, List.find?_cons, own]
      by_cases same : cookie.name = name
      · simp [same]
      · simpa [same] using others

/-- The pair a server finds under a name in the header of a jar. -/
theorem header_find {jar : Jar} (proper : ∀ cookie ∈ jar, cookie.Proper)
    (now : Int) {name : String} (plain : '=' ∉ name.toList) :
    ((jar.header now).bind fun header =>
        ((Text.splitAt ';' header).map Text.trim).find?
          (Text.startsWith · (name ++ "="))) =
      (jar.live now name).map fun cookie => Text.trim cookie.pair := by
  have stored : ∀ cookie ∈ (jar.sweep now).rows, cookie.Proper := by
    intro cookie member
    exact proper cookie (Table.mem_keep.mp member).1
  have found : (jar.sweep now).rows.find? (·.name = name) =
      jar.live now name :=
    Table.find_sweep
  rw [← found, ← find_piece stored plain, Jar.header]
  cases rows : (jar.sweep now).rows with
  | nil => rfl
  | cons first rest =>
      rw [rows] at stored
      have pieces := splitAt_header (List.cons_ne_nil first rest)
        fun cookie member => (stored cookie member).whole
      exact congrArg (List.find? (Text.startsWith · (name ++ "="))) pieces

/-- A header that spells a name and a value out. -/
theorem SetCookie.name_eq {header : SetCookie} {name value : String}
    (pair : header.pair = name ++ "=" ++ value) (plain : '=' ∉ name.toList)
    (trimmed : Text.Trimmed name.toList) : header.name = name := by
  have text : header.pair.toList = name.toList ++ '=' :: value.toList := by
    simp [pair]
  rw [SetCookie.name, text, takeWhile_name plain, String.ofList_toList]
  exact Text.trim_of_trimmed trimmed

theorem SetCookie.value_eq {header : SetCookie} {name value : String}
    (pair : header.pair = name ++ "=" ++ value) (plain : '=' ∉ name.toList)
    (trimmed : Text.Trimmed value.toList) : header.value = value := by
  have text : header.pair.toList = name.toList ++ '=' :: value.toList := by
    simp [pair]
  rw [SetCookie.value, text, dropWhile_name plain, List.drop_one,
    List.tail_cons, String.ofList_toList]
  exact Text.trim_of_trimmed trimmed

end Cookies
