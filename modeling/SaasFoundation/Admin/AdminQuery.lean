import SaasFoundation.Relational.Like

/-!
# `admin/admin-query.ts`

Lower-casing is taken character by character; `ILIKE` lower-cases the text and
the pattern and then matches them.
-/

namespace SaasFoundation

open Relational

namespace AdminQuery

/-- `` `%${value.replace(/[\\%_]/g, '\\$&')}%` ``. -/
def containsPattern (value : String) : String :=
  .ofList ('%' :: (Like.escape value.toList ++ ['%']))

/-- `text ILIKE pattern`; an error of the matcher is no match. -/
def ilike (fold : Char → Char) (text pattern : String) : Bool :=
  Like.matchText (pattern.toList.map fold) (text.toList.map fold) = .matched

/-- What lower-casing leaves alone: the wildcards and the escape character. -/
structure Folds (fold : Char → Char) : Prop where
  fixed : ∀ char, Like.isSpecial char = true → fold char = char
  plain : ∀ char, Like.isSpecial char = false →
    Like.isSpecial (fold char) = false

theorem Folds.escape {fold : Char → Char} (folds : Folds fold)
    (text : List Char) :
    (Like.escape text).map fold = Like.escape (text.map fold) := by
  induction text with
  | nil => rfl
  | cons char text induction =>
      cases special : Like.isSpecial char with
      | true =>
          have slash : fold '\\' = '\\' := folds.fixed '\\' rfl
          have same : fold char = char := folds.fixed char special
          simp [Like.escape, special, slash, same, induction]
      | false =>
          have plain := folds.plain char special
          simp [Like.escape, special, plain, induction]

/-- The text has a piece that is the searched one up to letter case. -/
def Contains (fold : Char → Char) (text searched : String) : Prop :=
  ∃ piece, piece <:+: text.toList ∧
    piece.map fold = searched.toList.map fold

theorem contains_iff {fold : Char → Char} {text searched : String} :
    Contains fold text searched ↔
      searched.toList.map fold <:+: text.toList.map fold := by
  constructor
  · rintro ⟨piece, infix_, same⟩
    rw [← same]
    exact infix_.map fold
  · rintro ⟨left, right, split⟩
    obtain ⟨front, back, whole, frontSame, backSame⟩ :=
      List.map_eq_append_iff.mp split.symm
    obtain ⟨first, piece, joined, firstSame, pieceSame⟩ :=
      List.map_eq_append_iff.mp frontSame
    refine ⟨piece, ⟨first, back, ?_⟩, pieceSame⟩
    rw [whole, joined]

/-- A search is literal: its pattern matches the texts that contain it, whatever
wildcards and escape characters it has. -/
theorem ilike_containsPattern (fold : Char → Char) (searched text : String)
    (folds : Folds fold) :
    ilike fold text (containsPattern searched) = true ↔
      Contains fold text searched := by
  have percent : fold '%' = '%' := folds.fixed '%' rfl
  have pattern : (containsPattern searched).toList.map fold =
      '%' :: (Like.escape (searched.toList.map fold) ++ ['%']) := by
    simp [containsPattern, percent, folds.escape]
  rw [contains_iff, ilike, pattern, decide_eq_true_iff,
    Like.matchText_contains]

theorem special_le {char : Char} (special : Like.isSpecial char = true) :
    char.toNat ≤ 95 := by
  simp only [Like.isSpecial, Bool.or_eq_true, decide_eq_true_eq] at special
  rcases special with (rfl | rfl) | rfl <;> decide

/-- Lower-case letters come after the special characters. -/
theorem toLower_of_upper {char : Char}
    (upper : char.val ≥ 'A'.val ∧ char.val ≤ 'Z'.val) :
    95 < char.toLower.toNat := by
  have low : 65 ≤ char.val.toNat := upper.1
  have high : char.val.toNat ≤ 90 := upper.2
  have sum : char.toLower.toNat = char.val.toNat + 32 := by
    unfold Char.toLower
    rw [dif_pos upper]
    change (char.val + 32).toNat = _
    rw [UInt32.toNat_add]
    have small : char.val.toNat + 32 < 2 ^ 32 := by omega
    exact Nat.mod_eq_of_lt small
  omega

theorem folds_toLower : Folds Char.toLower := by
  constructor
  · intro char special
    simp only [Like.isSpecial, Bool.or_eq_true, decide_eq_true_eq] at special
    rcases special with (rfl | rfl) | rfl <;> rfl
  · intro char plain
    by_cases upper : char.val ≥ 'A'.val ∧ char.val ≤ 'Z'.val
    · by_contra special
      have bound := special_le (by simpa using special)
      have above := toLower_of_upper upper
      omega
    · have same : char.toLower = char := dif_neg upper
      rw [same]
      exact plain

theorem ilike_containsPattern_mixed :
    ilike Char.toLower "A100%\\_b" (containsPattern "00%\\_B") = true ↔
      Contains Char.toLower "A100%\\_b" "00%\\_B" :=
  ilike_containsPattern Char.toLower _ _ folds_toLower

example : containsPattern "10%" = "%10\\%%" := by decide

end AdminQuery

end SaasFoundation
