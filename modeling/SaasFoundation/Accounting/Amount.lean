import SaasFoundation.Accounting.Numeric

/-!
# Amounts of credit adjustments

The two patterns of `CreditAdjustmentDto` and `AccountCreditsService.adjust`,
and the number PostgreSQL reads from an amount.
-/

namespace SaasFoundation

namespace Amount

/-- An optional sign, the part before the first dot, the part after it. -/
structure Parts where
  negative : Bool
  whole : List Char
  fraction : Option (List Char)
  deriving DecidableEq, Repr

def splitDot (chars : List Char) : List Char × Option (List Char) :=
  match chars.dropWhile (· ≠ '.') with
  | [] => (chars, none)
  | _ :: fraction => (chars.takeWhile (· ≠ '.'), some fraction)

def parts (text : String) : Parts :=
  match text.toList with
  | '-' :: rest =>
      { negative := true
        whole := (splitDot rest).1, fraction := (splitDot rest).2 }
  | chars =>
      { negative := false
        whole := (splitDot chars).1, fraction := (splitDot chars).2 }

/-- `\d{1,limit}`. -/
def digits (limit : Nat) (chars : List Char) : Bool :=
  chars.all (·.isDigit) && 1 ≤ chars.length && chars.length ≤ limit

/-- `0+`. -/
def zeros (chars : List Char) : Bool :=
  chars.all (· == '0') && 1 ≤ chars.length

/-- The pattern of `CreditAdjustmentDto`: an optional minus sign, one to
fifteen digits, and possibly a dot with one to four further digits. -/
def wellFormed (text : String) : Bool :=
  digits 15 (parts text).whole && (parts text).fraction.all (digits 4)

/-- The pattern `adjust` rejects: the same shape with zeros only. -/
def isZero (text : String) : Bool :=
  zeros (parts text).whole && (parts text).fraction.all zeros

def digitValue (char : Char) : Nat := char.toNat - '0'.toNat

/-- Positional value of a list of digits. -/
def value (chars : List Char) : Nat :=
  chars.foldl (fun total char => 10 * total + digitValue char) 0

/-- Four fraction digits, zeros at the end. -/
def fractionUnits (chars : List Char) : Nat :=
  value chars * 10 ^ (4 - chars.length)

/-- Units of `0.0001` of the parsed number. -/
def units (text : String) : Int :=
  let magnitude : Nat :=
    value (parts text).whole * 10000 +
      ((parts text).fraction.map fractionUnits).getD 0
  if (parts text).negative then -(magnitude : Int) else magnitude

example : units "-12.5" = -125000 := by decide +kernel

theorem digitValue_le {char : Char} (digit : char.isDigit = true) :
    digitValue char ≤ 9 := by
  simp only [Char.isDigit, Bool.and_eq_true, decide_eq_true_eq] at digit
  have upper := digit.2
  simp only [UInt32.le_iff_toNat_le] at upper
  change char.val.toNat - 48 ≤ 9
  have nine : '9'.val.toNat = 57 := rfl
  omega

theorem eq_zero_of_digitValue {char : Char} (digit : char.isDigit = true)
    (zero : digitValue char = 0) : char = '0' := by
  simp only [Char.isDigit, Bool.and_eq_true, decide_eq_true_eq] at digit
  have lower := digit.1
  simp only [ge_iff_le, UInt32.le_iff_toNat_le] at lower
  change char.val.toNat - 48 = 0 at zero
  have floor : '0'.val.toNat = 48 := rfl
  apply Char.ext
  apply UInt32.toNat.inj
  change char.val.toNat = 48
  omega

theorem foldl_lt {chars : List Char} (digits : chars.all (·.isDigit) = true)
    (total : Nat) :
    chars.foldl (fun total char => 10 * total + digitValue char) total <
      (total + 1) * 10 ^ chars.length := by
  induction chars generalizing total with
  | nil => simp
  | cons char chars ih =>
      simp only [List.all_cons, Bool.and_eq_true] at digits
      have bound := digitValue_le digits.1
      calc
        _ < (10 * total + digitValue char + 1) * 10 ^ chars.length :=
          ih digits.2 _
        _ ≤ (10 * (total + 1)) * 10 ^ chars.length :=
          Nat.mul_le_mul_right _ (by omega)
        _ = (total + 1) * 10 ^ (char :: chars).length := by
          rw [List.length_cons, Nat.pow_succ]
          ring

theorem value_lt {chars : List Char} (digits : chars.all (·.isDigit) = true) :
    value chars < 10 ^ chars.length := by
  simpa [value] using foldl_lt digits 0

theorem foldl_eq_zero {chars : List Char}
    (digits : chars.all (·.isDigit) = true) {total : Nat}
    (zero : chars.foldl (fun total char => 10 * total + digitValue char) total =
      0) :
    total = 0 ∧ chars.all (· == '0') = true := by
  induction chars generalizing total with
  | nil => exact ⟨zero, rfl⟩
  | cons char chars ih =>
      simp only [List.all_cons, Bool.and_eq_true] at digits
      obtain ⟨sum, rest⟩ := ih digits.2 zero
      dsimp only at sum
      have char0 := eq_zero_of_digitValue digits.1 (by omega)
      refine ⟨by omega, ?_⟩
      simp [char0]
      simpa using rest

theorem fractionUnits_lt {chars : List Char} {limit : Nat}
    (fits : digits limit chars = true) (short : limit ≤ 4) :
    fractionUnits chars < 10 ^ 4 := by
  simp only [digits, Bool.and_eq_true, decide_eq_true_eq] at fits
  calc
    fractionUnits chars < 10 ^ chars.length * 10 ^ (4 - chars.length) :=
      Nat.mul_lt_mul_of_pos_right (value_lt fits.1.1)
        (Nat.pow_pos (by decide))
    _ = 10 ^ 4 := by
      rw [← Nat.pow_add]
      congr 1
      omega

theorem magnitude_lt {text : String} (valid : wellFormed text = true) :
    (units text).natAbs < 10 ^ 19 := by
  simp only [wellFormed, Bool.and_eq_true] at valid
  obtain ⟨whole, fraction⟩ := valid
  have wholeLt : value (parts text).whole < 10 ^ 15 := by
    simp only [digits, Bool.and_eq_true, decide_eq_true_eq] at whole
    exact (value_lt whole.1.1).trans_le
      (Nat.pow_le_pow_right (by decide) whole.2)
  have fractionLt : ((parts text).fraction.map fractionUnits).getD 0 <
      10 ^ 4 := by
    cases given : (parts text).fraction with
    | none => simp
    | some chars =>
        rw [given] at fraction
        exact fractionUnits_lt (by simpa using fraction) (by decide)
  unfold units
  dsimp only
  split <;> omega

theorem isZero_of_units {text : String} (valid : wellFormed text = true)
    (zero : units text = 0) : isZero text = true := by
  simp only [wellFormed, Bool.and_eq_true, digits, decide_eq_true_eq] at valid
  obtain ⟨⟨⟨whole, wholeSome⟩, _⟩, fraction⟩ := valid
  have sum : value (parts text).whole * 10000 +
      ((parts text).fraction.map fractionUnits).getD 0 = 0 := by
    unfold units at zero
    dsimp only at zero
    split at zero <;> omega
  have wholeZero := foldl_eq_zero whole
    (show value (parts text).whole = 0 by omega)
  simp only [isZero, zeros, wholeZero.2, Bool.true_and, Bool.and_eq_true,
    decide_eq_true_eq]
  refine ⟨wholeSome, ?_⟩
  cases given : (parts text).fraction with
  | none => rfl
  | some chars =>
      rw [given] at fraction sum
      simp only [Option.all_some, digits, zeros, Bool.and_eq_true,
        decide_eq_true_eq] at fraction ⊢
      have scaled : value chars * 10 ^ (4 - chars.length) = 0 := by
        simpa [fractionUnits] using (Nat.add_eq_zero_iff.mp sum).2
      have none : value chars = 0 :=
        (Nat.mul_eq_zero.mp scaled).resolve_right
          (Nat.ne_of_gt (Nat.pow_pos (by decide)))
      exact ⟨(foldl_eq_zero fraction.1.1 none).2, fraction.1.2⟩

theorem value_of_zeros {chars : List Char} (zero : chars.all (· == '0') = true) :
    value chars = 0 := by
  have all : chars = List.replicate chars.length '0' :=
    List.eq_replicate_iff.mpr ⟨rfl, fun char member =>
      beq_iff_eq.mp (List.all_eq_true.mp zero char member)⟩
  rw [all]
  generalize chars.length = count
  unfold value
  induction count with
  | zero => rfl
  | succ count ih => exact ih

theorem units_of_isZero {text : String} (zero : isZero text = true) :
    units text = 0 := by
  simp only [isZero, zeros, Bool.and_eq_true] at zero
  obtain ⟨⟨whole, _⟩, fraction⟩ := zero
  have fractionZero :
      ((parts text).fraction.map fractionUnits).getD 0 = 0 := by
    cases given : (parts text).fraction with
    | none => rfl
    | some chars =>
        simp only [given, Option.all_some, zeros, Bool.and_eq_true] at fraction
        simp [fractionUnits, value_of_zeros fraction.1]
  unfold units
  rw [value_of_zeros whole, fractionZero]
  split <;> rfl

end Amount

/-- An amount that passed the validation of the request body. -/
structure Amount where
  text : String
  valid : Amount.wellFormed text = true
  deriving DecidableEq

def Amount.toUnits (amount : Amount) : Int := Amount.units amount.text

def Amount.isZeroText (amount : Amount) : Bool := Amount.isZero amount.text

/-- Every amount a request can carry fits the column. -/
theorem Amount.fits (amount : Amount) :
    ∃ value, Numeric.ofUnits amount.toUnits = some value := by
  have bound := Amount.magnitude_lt amount.valid
  exact ⟨⟨amount.toUnits, bound.trans (by decide)⟩,
    Numeric.ofUnits_eq_some.mpr rfl⟩

/-- Only texts of the rejected pattern mean zero. -/
theorem Amount.isZeroText_of_units (amount : Amount)
    (zero : amount.toUnits = 0) : amount.isZeroText = true :=
  Amount.isZero_of_units amount.valid zero

theorem Amount.isZeroText_iff (amount : Amount) :
    amount.isZeroText = true ↔ amount.toUnits = 0 :=
  ⟨Amount.units_of_isZero, amount.isZeroText_of_units⟩

end SaasFoundation
