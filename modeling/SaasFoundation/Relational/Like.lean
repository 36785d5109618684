import Mathlib.Data.List.Infix

/-!
# The pattern matcher of `LIKE`

`matchText` is the matcher of PostgreSQL on characters, with the backslash as
escape character.  A percent sign scans the text for a place where the rest of
the pattern matches; a mismatch makes it look further, while running out of
text ends the whole match.
-/

namespace Relational

namespace Like

inductive Outcome where
  | matched
  | mismatch
  | abort
  /-- `LIKE pattern must not end with escape character`. -/
  | error
  deriving DecidableEq, Repr

/-- The places after `first` in the text, the leftmost first, until one does
not lead to a mismatch. -/
def scan (rest : List Char → Outcome) (first : Char) : List Char → Outcome
  | [] => .abort
  | char :: text =>
      if char = first then
        match rest text with
        | .mismatch => scan rest first text
        | outcome => outcome
      else scan rest first text

mutual

def matchText : List Char → List Char → Outcome
  | [], [] => .matched
  | [], _ :: _ => .mismatch
  | wanted :: pattern, [] =>
      if (wanted :: pattern).all (· = '%') then .matched else .abort
  | wanted :: pattern, char :: text =>
      if wanted = '\\' then
        match pattern with
        | [] => .error
        | literal :: pattern =>
            if literal = char then matchText pattern text else .mismatch
      else if wanted = '%' then afterPercent pattern (char :: text)
      else if wanted = '_' then matchText pattern text
      else if wanted = char then matchText pattern text
      else .mismatch

/-- The rest of a pattern behind a percent sign: further wildcards are
skipped, then the text is searched for the next character of the pattern. -/
def afterPercent : List Char → List Char → Outcome
  | [], _ => .matched
  | wanted :: pattern, text =>
      if wanted = '%' then afterPercent pattern text
      else if wanted = '_' then
        match text with
        | [] => .abort
        | _ :: text => afterPercent pattern text
      else if wanted = '\\' then
        match pattern with
        | [] => .error
        | literal :: pattern => scan (matchText pattern) literal text
      else scan (matchText pattern) wanted text

end

/-- Characters with a meaning of their own in a pattern. -/
def isSpecial (char : Char) : Bool :=
  char = '\\' || char = '%' || char = '_'

/-- The pattern that matches a text only. -/
def escape : List Char → List Char
  | [] => []
  | char :: text =>
      if isSpecial char then '\\' :: char :: escape text
      else char :: escape text

theorem not_special {char : Char} (plain : isSpecial char = false) :
    char ≠ '\\' ∧ char ≠ '%' ∧ char ≠ '_' := by
  simpa [isSpecial, and_assoc] using plain

theorem matchText_plain {wanted : Char} (plain : isSpecial wanted = false)
    (char : Char) (pattern text : List Char) :
    matchText (wanted :: pattern) (char :: text) =
      if wanted = char then matchText pattern text else .mismatch := by
  obtain ⟨notEscape, notPercent, notUnderscore⟩ := not_special plain
  rw [matchText.eq_def]
  dsimp only
  rw [if_neg notEscape, if_neg notPercent, if_neg notUnderscore]

theorem matchText_percent (char : Char) (pattern text : List Char) :
    matchText ('%' :: pattern) (char :: text) =
      afterPercent pattern (char :: text) := by
  rw [matchText.eq_def]
  rfl

theorem matchText_escaped (literal char : Char) (pattern text : List Char) :
    matchText ('\\' :: literal :: pattern) (char :: text) =
      if literal = char then matchText pattern text else .mismatch :=
  rfl

theorem afterPercent_plain {wanted : Char} (plain : isSpecial wanted = false)
    (pattern text : List Char) :
    afterPercent (wanted :: pattern) text =
      scan (matchText pattern) wanted text := by
  obtain ⟨notEscape, notPercent, notUnderscore⟩ := not_special plain
  rw [afterPercent.eq_def]
  dsimp only
  rw [if_neg notPercent, if_neg notUnderscore, if_neg notEscape]

theorem afterPercent_escaped (literal : Char) (pattern text : List Char) :
    afterPercent ('\\' :: literal :: pattern) text =
      scan (matchText pattern) literal text :=
  rfl

/-- One escaped character against one character of the text. -/
theorem matchText_escape_cons (wanted char : Char)
    (literal pattern text : List Char) :
    matchText (escape (wanted :: literal) ++ pattern) (char :: text) =
      if wanted = char then matchText (escape literal ++ pattern) text
      else .mismatch := by
  cases special : isSpecial wanted with
  | true =>
      rw [escape, if_pos special]
      exact matchText_escaped wanted char _ text
  | false =>
      rw [escape, if_neg (by simp [special])]
      exact matchText_plain special char _ text

theorem matchText_escape_nil (wanted : Char) (literal pattern : List Char) :
    matchText (escape (wanted :: literal) ++ pattern) [] = .abort := by
  cases special : isSpecial wanted with
  | true =>
      rw [escape, if_pos special]
      rfl
  | false =>
      have notPercent : wanted ≠ '%' := (not_special special).2.1
      rw [escape, if_neg (by simp [special])]
      simp [matchText, notPercent]

theorem afterPercent_escape_cons (wanted : Char)
    (literal pattern text : List Char) :
    afterPercent (escape (wanted :: literal) ++ pattern) text =
      scan (matchText (escape literal ++ pattern)) wanted text := by
  cases special : isSpecial wanted with
  | true =>
      rw [escape, if_pos special]
      exact afterPercent_escaped wanted _ text
  | false =>
      rw [escape, if_neg (by simp [special])]
      exact afterPercent_plain special _ text

/-- An escaped text and a percent sign match what begins with the text.  The
match aborts only on a text that is too short. -/
theorem matchText_escape_percent (literal text : List Char) :
    (matchText (escape literal ++ ['%']) text = .matched ↔ literal <+: text) ∧
      (matchText (escape literal ++ ['%']) text ≠ .error) ∧
      (matchText (escape literal ++ ['%']) text = .abort →
        text.length < literal.length) := by
  induction literal generalizing text with
  | nil =>
      have matched : matchText (escape [] ++ ['%']) text = .matched := by
        cases text <;> simp [escape, matchText, afterPercent]
      simp [matched]
  | cons wanted literal induction =>
      cases text with
      | nil => simp [matchText_escape_nil]
      | cons char text =>
          rw [matchText_escape_cons]
          by_cases same : wanted = char
          · obtain ⟨matched, noError, short⟩ := induction text
            rw [if_pos same]
            refine ⟨?_, noError, fun aborted => ?_⟩
            · rw [matched, List.cons_prefix_cons]
              simp [same]
            · have shorter := short aborted
              simpa using shorter
          · simp [same, List.cons_prefix_cons]

/-- The search behind a percent sign finds a text wherever it occurs. -/
theorem scan_escape (wanted : Char) (literal text : List Char) :
    scan (matchText (escape literal ++ ['%'])) wanted text = .matched ↔
      wanted :: literal <:+: text := by
  induction text with
  | nil => simp [scan]
  | cons char text induction =>
      obtain ⟨matched, noError, short⟩ := matchText_escape_percent literal text
      rw [List.infix_cons_iff, List.cons_prefix_cons, scan, ← induction]
      by_cases same : char = wanted
      · rw [if_pos same, ← matched]
        cases outcome : matchText (escape literal ++ ['%']) text with
        | matched => simp [same]
        | mismatch => simp
        | error => exact absurd outcome noError
        | abort =>
            -- What is left of the text is too short for any later place.
            have shorter := short outcome
            have nowhere : ¬ wanted :: literal <:+: text := by
              intro infix_
              have bound := infix_.length_le
              simp only [List.length_cons] at bound
              omega
            simp [induction, nowhere]
      · have different : wanted ≠ char := Ne.symm same
        simp [same, different]

/-- Between percent signs an escaped text matches the texts that contain it. -/
theorem matchText_contains (literal text : List Char) :
    matchText ('%' :: (escape literal ++ ['%'])) text = .matched ↔
      literal <:+: text := by
  have found : afterPercent (escape literal ++ ['%']) text = .matched ↔
      literal <:+: text := by
    cases literal with
    | nil => simp [escape, afterPercent]
    | cons wanted literal =>
        rw [afterPercent_escape_cons, scan_escape]
  cases text with
  | nil =>
      cases literal with
      | nil => simp [escape, matchText]
      | cons wanted literal =>
          have notAll : (escape (wanted :: literal)).all (· = '%') = false := by
            cases special : isSpecial wanted with
            | true => simp [escape, special]
            | false => simp [escape, special, (not_special special).2.1]
          simp [matchText, notAll]
  | cons char text =>
      rw [← found, matchText_percent]

end Like

end Relational
