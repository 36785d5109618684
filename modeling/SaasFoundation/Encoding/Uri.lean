import SaasFoundation.Encoding.Percent

/-!
# `encodeURIComponent` and `decodeURIComponent`

The two functions of ECMA-262 on text without lone surrogates.
-/

namespace Uri

/-- What `encodeURIComponent` leaves as it is. -/
def isUnreserved (char : Char) : Bool :=
  char.isAlphanum || "-_.!~*'()".toList.contains char

/-- Unreserved characters are visible characters of ASCII. -/
theorem bounds_of_isUnreserved {char : Char}
    (plain : isUnreserved char = true) :
    0x21 ≤ char.toNat ∧ char.toNat ≤ 0x7E := by
  rw [isUnreserved, Bool.or_eq_true] at plain
  obtain alphanumeric | mark := plain
  · delta Char.isAlphanum Char.isAlpha Char.isUpper Char.isLower Char.isDigit
      at alphanumeric
    simp only [Bool.or_eq_true, Bool.and_eq_true, decide_eq_true_eq, ge_iff_le,
      UInt32.le_iff_toNat_le] at alphanumeric
    have code : char.toNat = char.val.toNat := rfl
    have ends : 'A'.val.toNat = 65 ∧ 'Z'.val.toNat = 90 ∧
        'a'.val.toNat = 97 ∧ 'z'.val.toNat = 122 ∧
        '0'.val.toNat = 48 ∧ '9'.val.toNat = 57 := by
      decide
    omega
  · have marks : "-_.!~*'()".toList.all
        (fun mark => 0x21 ≤ mark.toNat ∧ mark.toNat ≤ 0x7E) = true := by
      decide
    simpa using List.all_eq_true.mp marks char (List.contains_iff_mem.mp mark)

def encodeURIComponent (text : String) : String :=
  .ofList (Percent.encode isUnreserved text.toList)

/-- `none` where the function throws a `URIError`. -/
def decodeURIComponent (text : String) : Option String :=
  (Percent.decode text.toList).map .ofList

theorem decode_encodeURIComponent (text : String) :
    decodeURIComponent (encodeURIComponent text) = some text := by
  rw [decodeURIComponent, encodeURIComponent, String.toList_ofList,
    Percent.decode_encode (by decide), Option.map_some, String.ofList_toList]

theorem not_mem_encodeURIComponent (text : String) {separator : Char}
    (special : isUnreserved separator = false) (percent : separator ≠ '%')
    (digit : ∀ value : Fin 16, separator ≠ Percent.hexDigit value) :
    separator ∉ (encodeURIComponent text).toList := by
  rw [encodeURIComponent, String.toList_ofList]
  exact Percent.not_mem_encode special percent digit

/-- Every character is an unreserved one or takes part in an escape. -/
theorem mem_encodeURIComponent {text : String} {char : Char}
    (member : char ∈ (encodeURIComponent text).toList) :
    isUnreserved char = true ∨ char = '%' ∨
      ∃ value : Fin 16, char = Percent.hexDigit value := by
  rw [encodeURIComponent, String.toList_ofList] at member
  exact Percent.mem_encode member

example : encodeURIComponent "a b+é" = "a%20b%2B%C3%A9" := by decide +kernel

end Uri
