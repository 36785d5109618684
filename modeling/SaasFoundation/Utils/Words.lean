import Mathlib.Data.List.DropRight
import SaasFoundation.Utils.Text

/-!
# Words of a text

Trimming, splitting at white space and joining with blanks, and what the three
make of each other.
-/

namespace SaasFoundation

namespace Text

/-- Every run of white space is one blank.  `open_` says that the previous
character was white space. -/
def squeeze (open_ : Bool) : List Char → List Char
  | [] => []
  | char :: rest =>
      if isSpace char then
        if open_ then squeeze true rest else ' ' :: squeeze true rest
      else char :: squeeze false rest

/-- Surrounding white space removed, inner runs replaced by one blank. -/
def collapse (text : String) : String :=
  .ofList (squeeze false (trim text).toList)

theorem splitList_ne_nil {separator : Char → Bool} {runs open_ : Bool}
    (text : List Char) : splitList separator runs open_ text ≠ [] := by
  induction text generalizing open_ with
  | nil => simp [splitList]
  | cons char rest ih =>
      rw [splitList]
      split
      · split
        · exact ih
        · simp
      · split
        · simp
        · simp

/-- The first piece goes on with a character that separates nothing. -/
theorem splitList_cons {separator : Char → Bool} (runs open_ : Bool)
    {char : Char} (inside : separator char = false) (rest : List Char) :
    ∃ piece pieces, splitList separator runs false rest = piece :: pieces ∧
      splitList separator runs open_ (char :: rest) =
        (char :: piece) :: pieces := by
  cases found : splitList separator runs false rest with
  | nil => exact absurd found (splitList_ne_nil rest)
  | cons piece pieces =>
      exact ⟨piece, pieces, rfl, by simp [splitList, inside, found]⟩

/-- Joining the words gives the squeezed text. -/
theorem intercalate_splitList (open_ : Bool) (text : List Char) :
    [' '].intercalate (splitList isSpace true open_ text) =
      squeeze open_ text := by
  induction text generalizing open_ with
  | nil => simp [splitList, squeeze]
  | cons char rest ih =>
      by_cases space : isSpace char = true
      · cases open_ with
        | true => simpa [splitList, squeeze, space] using ih true
        | false =>
            have joined := ih true
            cases found : splitList isSpace true true rest with
            | nil => exact absurd found (splitList_ne_nil rest)
            | cons piece pieces =>
                rw [found] at joined
                simp [splitList, squeeze, space, found, ← joined]
      · have inside : isSpace char = false := by simpa using space
        obtain ⟨piece, pieces, found, extended⟩ :=
          splitList_cons true open_ inside rest
        have joined := ih false
        rw [found] at joined
        rw [extended]
        cases pieces <;> simp_all [squeeze]

theorem splitList_of_unspaced {text : List Char} (open_ : Bool)
    (unspaced : text.any isSpace = false) :
    splitList isSpace true open_ text = [text] := by
  induction text generalizing open_ with
  | nil => rfl
  | cons char rest ih =>
      simp only [List.any_cons, Bool.or_eq_false_iff] at unspaced
      simp [splitList, unspaced.1, ih false unspaced.2]

/-- Squeezing moves no word. -/
theorem splitList_squeeze (open_ : Bool) (text : List Char) :
    splitList isSpace true open_ (squeeze open_ text) =
      splitList isSpace true open_ text := by
  have blank : isSpace ' ' = true := by decide
  induction text generalizing open_ with
  | nil => rfl
  | cons char rest ih =>
      by_cases space : isSpace char = true
      · cases open_ with
        | true => simpa [splitList, squeeze, space] using ih true
        | false => simp [splitList, squeeze, space, blank, ih true]
      · simp [splitList, squeeze, space, ih false]

/-- One word is all there is exactly when nothing separates. -/
theorem tail_splitList_eq_nil {text : List Char} :
    (splitList isSpace true false text).tail = [] ↔
      text.any isSpace = false := by
  induction text with
  | nil => simp [splitList]
  | cons char rest ih =>
      by_cases space : isSpace char = true
      · simp [splitList, space, splitList_ne_nil]
      · have inside : isSpace char = false := by simpa using space
        obtain ⟨piece, pieces, found, extended⟩ :=
          splitList_cons true false inside rest
        rw [found, List.tail_cons] at ih
        rw [extended, List.tail_cons, ih]
        simp [inside]

/-- No white space at either end. -/
structure Trimmed (text : List Char) : Prop where
  head : ∀ char, text.head? = some char → isSpace char = false
  last : ∀ char, text.getLast? = some char → isSpace char = false

theorem toList_trim (text : String) :
    (trim text).toList = (text.toList.dropWhile isSpace).rdropWhile isSpace := by
  simp [trim, List.rdropWhile]

theorem trimmed_trim (text : String) : Trimmed (trim text).toList := by
  rw [toList_trim]
  constructor
  · intro char first
    obtain ⟨kept, same⟩ : (text.toList.dropWhile isSpace).rdropWhile isSpace <+:
        text.toList.dropWhile isSpace := List.rdropWhile_prefix _ _
    have head := List.head?_dropWhile_not isSpace text.toList
    rw [← same, List.head?_append, first] at head
    simpa using head
  · intro char last
    have nonempty : (text.toList.dropWhile isSpace).rdropWhile isSpace ≠ [] := by
      intro nothing
      simp [nothing] at last
    have kept := List.rdropWhile_last_not isSpace _ nonempty
    rw [List.getLast?_eq_some_getLast nonempty] at last
    injection last with last
    rw [last] at kept
    simpa using kept

/-- A trimmed text is not trimmed any further. -/
theorem trim_of_trimmed {text : String} (trimmed : Trimmed text.toList) :
    trim text = text := by
  have head : text.toList.dropWhile isSpace = text.toList := by
    cases listed : text.toList with
    | nil => rfl
    | cons char rest =>
        have inside := trimmed.head char (by rw [listed]; rfl)
        simp [inside]
  have last : text.toList.rdropWhile isSpace = text.toList := by
    refine List.rdropWhile_eq_self_iff.mpr fun nonempty => ?_
    rw [trimmed.last _ (List.getLast?_eq_some_getLast nonempty)]
    simp
  rw [← String.toList_inj, toList_trim, head, last]

theorem getLast_squeeze {text : List Char} {char : Char}
    (last : text.getLast? = some char) (inside : isSpace char = false)
    (open_ : Bool) : (squeeze open_ text).getLast? = some char := by
  induction text generalizing open_ with
  | nil => simp at last
  | cons first rest ih =>
      cases rest with
      | nil =>
          obtain rfl : first = char := by simpa using last
          simp [squeeze, inside]
      | cons second rest =>
          have later : (second :: rest).getLast? = some char := by
            simpa [List.getLast?_cons_cons] using last
          have kept := ih later
          rw [squeeze]
          split
          · split
            · exact kept true
            · rw [List.getLast?_cons, kept true]
              rfl
          · rw [List.getLast?_cons, kept false]
            rfl

theorem trimmed_squeeze {text : List Char} (trimmed : Trimmed text) :
    Trimmed (squeeze false text) := by
  constructor
  · intro char first
    cases text with
    | nil => simp [squeeze] at first
    | cons head rest =>
        have inside := trimmed.head head rfl
        simp only [squeeze, inside] at first
        obtain rfl : head = char := by simpa using first
        exact inside
  · intro char last
    cases found : text.getLast? with
    | none =>
        rw [List.getLast?_eq_none_iff.mp found] at last
        simp [squeeze] at last
    | some final =>
        have inside := trimmed.last final found
        rw [getLast_squeeze found inside] at last
        injection last with last
        exact last ▸ inside

/-- A blank behind a trimmed text is trimmed away. -/
theorem trim_append_blank {text : String} (trimmed : Trimmed text.toList) :
    trim (text ++ " ") = text := by
  have blank : isSpace ' ' = true := by decide
  have head : (text ++ " ").toList.dropWhile isSpace = text.toList ++ [' '] ∨
      (text ++ " ").toList.dropWhile isSpace = [] ∧ text.toList = [] := by
    rw [String.toList_append]
    cases listed : text.toList with
    | nil => exact .inr ⟨by simp [blank], rfl⟩
    | cons char rest =>
        have inside := trimmed.head char (by rw [listed]; rfl)
        exact .inl (by simp [inside])
  rw [← String.toList_inj, toList_trim]
  rcases head with kept | ⟨dropped, nothing⟩
  · rw [kept, List.rdropWhile_concat_pos _ _ _ blank]
    refine List.rdropWhile_eq_self_iff.mpr fun nonempty => ?_
    rw [trimmed.last _ (List.getLast?_eq_some_getLast nonempty)]
    simp
  · rw [dropped, nothing]
    rfl

/-- The words of a text, between which there is one blank each. -/
theorem splitSpaces_eq_cons (text : String) : ∃ first rest,
    splitSpaces (trim text) = first :: rest ∧
      " ".intercalate (first :: rest) = collapse text ∧
      (rest = [] ↔ (trim text).toList.any isSpace = false) ∧
      (rest = [] → first = trim text) := by
  have joined := intercalate_splitList false (trim text).toList
  have one : (splitList isSpace true false (trim text).toList).tail = [] ↔ _ :=
    tail_splitList_eq_nil
  cases found : splitList isSpace true false (trim text).toList with
  | nil => exact absurd found (splitList_ne_nil _)
  | cons piece pieces =>
      rw [found] at joined one
      refine ⟨.ofList piece, pieces.map .ofList, ?_, ?_, ?_, ?_⟩
      · rw [splitSpaces, found]
        rfl
      · have lists : ((String.ofList piece) :: pieces.map .ofList).map
            String.toList = piece :: pieces := by
          simp [Function.comp_def]
        rw [← String.toList_inj, String.toList_intercalate, lists, collapse,
          ← joined, String.toList_ofList, String.toList_ofList]
      · rw [List.map_eq_nil_iff]
        exact one
      · intro alone
        have unspaced := one.mp (List.map_eq_nil_iff.mp alone)
        have whole := splitList_of_unspaced false unspaced
        rw [found] at whole
        rw [(List.cons.inj whole).1, String.ofList_toList]

/-- The first word, and the others. -/
def firstWord (text : String) : String :=
  (splitSpaces (trim text)).headD ""

def otherWords (text : String) : String :=
  " ".intercalate (splitSpaces (trim text)).tail

/-- The two parts with a blank between them. -/
def rejoin (text : String) : String :=
  firstWord text ++ " " ++ otherWords text

theorem rejoin_of_words {text : String}
    (spaced : (trim text).toList.any isSpace = true) :
    rejoin text = collapse text := by
  obtain ⟨first, rest, found, joined, one, _⟩ := splitSpaces_eq_cons text
  have others : rest ≠ [] := fun none => by simp [one.mp none] at spaced
  rw [rejoin, firstWord, otherWords, found, ← joined]
  exact (String.intercalate_cons_of_ne_nil others).symm

/-- A single word is followed by a blank. -/
theorem rejoin_of_word {text : String}
    (unspaced : (trim text).toList.any isSpace = false) :
    rejoin text = trim text ++ " " := by
  obtain ⟨first, rest, found, _, one, whole⟩ := splitSpaces_eq_cons text
  obtain rfl := one.mpr unspaced
  rw [rejoin, firstWord, otherWords, found, whole rfl]
  simp

theorem collapse_of_word {text : String}
    (unspaced : (trim text).toList.any isSpace = false) :
    collapse text = trim text := by
  obtain ⟨first, rest, _, joined, one, whole⟩ := splitSpaces_eq_cons text
  obtain rfl := one.mpr unspaced
  rw [← joined, whole rfl]
  simp

theorem rejoin_eq_collapse_iff {text : String} :
    rejoin text = collapse text ↔ (trim text).toList.any isSpace = true := by
  refine ⟨fun same => ?_, rejoin_of_words⟩
  by_contra unspaced
  rw [Bool.not_eq_true] at unspaced
  rw [rejoin_of_word unspaced, collapse_of_word unspaced] at same
  have longer := congrArg (fun text => text.toList.length) same
  simp at longer

/-- Taken apart again the parts are the same. -/
theorem splitSpaces_rejoin (text : String) :
    splitSpaces (trim (rejoin text)) = splitSpaces (trim text) := by
  cases spaced : (trim text).toList.any isSpace with
  | true =>
      have trimmed : Trimmed (collapse text).toList := by
        rw [collapse, String.toList_ofList]
        exact trimmed_squeeze (trimmed_trim text)
      rw [rejoin_of_words spaced, trim_of_trimmed trimmed, splitSpaces,
        collapse, String.toList_ofList, splitList_squeeze, ← splitSpaces]
  | false =>
      rw [rejoin_of_word spaced, trim_append_blank (trimmed_trim text)]

/-- Without runs every separator counts. -/
theorem splitList_eq_splitOnP {separator : Char → Bool} (open_ : Bool)
    (text : List Char) :
    splitList separator false open_ text = text.splitOnP separator := by
  induction text generalizing open_ with
  | nil => rfl
  | cons char rest ih =>
      rw [splitList, List.splitOnP_cons_eq_if_modifyHead]
      split
      · simp [ih]
      · rw [ih]
        cases found : rest.splitOnP separator with
        | nil => exact absurd found (List.splitOnP_ne_nil _ _)
        | cons piece pieces => rfl

theorem splitCommas_eq (text : String) :
    splitCommas text = (text.toList.splitOn ',').map .ofList := by
  rw [splitCommas, splitList_eq_splitOnP, List.splitOn_eq_splitOnP]

/-- No piece holds a separator. -/
theorem separator_of_mem_splitList {separator : Char → Bool}
    {runs open_ : Bool} {text piece : List Char} {char : Char}
    (member : piece ∈ splitList separator runs open_ text)
    (inside : char ∈ piece) : separator char = false := by
  induction text generalizing open_ piece with
  | nil =>
      obtain rfl : piece = [] := by simpa [splitList] using member
      simp at inside
  | cons first rest ih =>
      by_cases separates : separator first = true
      · simp only [splitList, separates, if_true] at member
        split at member
        · exact ih member inside
        · rcases List.mem_cons.mp member with rfl | later
          · simp at inside
          · exact ih later inside
      · have kept : separator first = false := by simpa using separates
        obtain ⟨head, pieces, found, extended⟩ :=
          splitList_cons runs open_ kept rest
        rw [extended] at member
        rcases List.mem_cons.mp member with rfl | later
        · rcases List.mem_cons.mp inside with rfl | inHead
          · exact kept
          · exact ih (found ▸ List.mem_cons_self) inHead
        · exact ih (found ▸ List.mem_cons_of_mem _ later) inside

theorem mem_of_mem_trim {text : String} {char : Char}
    (member : char ∈ (trim text).toList) : char ∈ text.toList := by
  rw [toList_trim] at member
  exact (List.dropWhile_sublist isSpace).subset
    ((List.rdropWhile_prefix isSpace _).subset member)

theorem splitCommas_intercalate {pieces : List String} (some : pieces ≠ [])
    (clean : ∀ piece ∈ pieces, ',' ∉ piece.toList) :
    splitCommas (",".intercalate pieces) = pieces := by
  have separator : ",".toList = [','] := rfl
  rw [splitCommas_eq, String.toList_intercalate, separator,
    List.splitOn_intercalate]
  · simp [Function.comp_def]
  · simpa using clean
  · simpa using some

/-- The values between commas, trimmed and without the empty ones. -/
def values (text : String) : List String :=
  ((splitCommas text).map trim).filter (· ≠ "")

/-- What a list of values is read back from. -/
structure Clean (value : String) : Prop where
  commas : ',' ∉ value.toList
  trimmed : trim value = value
  nonempty : value ≠ ""

theorem clean_of_mem_values {text value : String}
    (member : value ∈ values text) : Clean value := by
  obtain ⟨mapped, nonempty⟩ := List.mem_filter.mp member
  obtain ⟨piece, split, rfl⟩ := List.mem_map.mp mapped
  refine ⟨fun comma => ?_, trim_of_trimmed (trimmed_trim piece),
    by simpa using nonempty⟩
  obtain ⟨chars, inside, rfl⟩ := List.mem_map.mp split
  have separates := separator_of_mem_splitList inside
    (String.toList_ofList ▸ mem_of_mem_trim comma)
  simp at separates

/-- Clean values that are joined are read back by splitting alone. -/
theorem filter_splitCommas_intercalate {items : List String}
    (clean : ∀ item ∈ items, Clean item) :
    (splitCommas (",".intercalate items)).filter (· ≠ "") = items := by
  cases items with
  | nil => decide
  | cons first rest =>
      rw [splitCommas_intercalate (by simp) fun item member =>
        (clean item member).commas]
      exact List.filter_eq_self.mpr fun item member =>
        by simpa using (clean item member).nonempty

theorem values_intercalate {items : List String}
    (clean : ∀ item ∈ items, Clean item) :
    values (",".intercalate items) = items := by
  cases items with
  | nil => decide
  | cons first rest =>
      have same : (first :: rest).map trim = first :: rest := by
        refine (List.map_congr_left fun item member => ?_).trans
          (List.map_id _)
        exact (clean item member).trimmed
      rw [values, splitCommas_intercalate (by simp) fun item member =>
        (clean item member).commas, same]
      exact List.filter_eq_self.mpr fun item member =>
        by simpa using (clean item member).nonempty

theorem eraseDups_of_nodup {items : List String} (nodup : items.Nodup) :
    items.eraseDups = items := by
  induction items with
  | nil => rfl
  | cons item rest ih =>
      obtain ⟨absent, restNodup⟩ := List.nodup_cons.mp nodup
      have kept : rest.filter (fun other => !other == item) = rest := by
        refine List.filter_eq_self.mpr fun other member => ?_
        have different : other ≠ item := fun same => absent (same ▸ member)
        simpa using different
      rw [List.eraseDups_cons, kept, ih restNodup]

theorem nodup_eraseDups (items : List String) : items.eraseDups.Nodup := by
  generalize bound : items.length = size
  induction size using Nat.strong_induction_on generalizing items with
  | _ size ih =>
      cases items with
      | nil => simp
      | cons item rest =>
          rw [List.eraseDups_cons]
          refine List.nodup_cons.mpr ⟨?_, ih _ ?_ _ rfl⟩
          · simp [List.mem_eraseDups]
          · rw [← bound]
            exact Nat.lt_succ_of_le (List.length_filter_le _ _)

end Text

end SaasFoundation
