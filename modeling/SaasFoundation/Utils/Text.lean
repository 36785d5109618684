import Mathlib.Algebra.GroupWithZero.Nat
import Mathlib.Data.List.Basic

/-!
# String functions of the services

`String.prototype.trim`, `split(/\s+/)`, `split(',')` and `length` as
ECMAScript defines them, on lists of characters.
-/

namespace SaasFoundation

namespace Text

/-- White space and line terminators of ECMAScript. -/
def isSpace (char : Char) : Bool :=
  let code := char.toNat
  (9 ≤ code && code ≤ 13) || code == 0x20 || code == 0xA0 || code == 0x1680 ||
    (0x2000 ≤ code && code ≤ 0x200A) || code == 0x2028 || code == 0x2029 ||
    code == 0x202F || code == 0x205F || code == 0x3000 || code == 0xFEFF

/-- `trim()`. -/
def trim (text : String) : String :=
  .ofList (((text.toList.dropWhile isSpace).reverse.dropWhile isSpace).reverse)

/-- Pieces between separators; a run of separators counts once when `runs` is
set.  `open_` says that the previous character was a separator. -/
def splitList (separator : Char → Bool) (runs open_ : Bool) :
    List Char → List (List Char)
  | [] => [[]]
  | char :: rest =>
      if separator char then
        if runs && open_ then splitList separator runs true rest
        else [] :: splitList separator runs true rest
      else
        match splitList separator runs false rest with
        | [] => [[char]]
        | piece :: pieces => (char :: piece) :: pieces

/-- `split(/\s+/)`. -/
def splitSpaces (text : String) : List String :=
  (splitList isSpace true false text.toList).map .ofList

/-- `split(',')`. -/
def splitCommas (text : String) : List String :=
  (splitList (· == ',') false false text.toList).map .ofList

/-- `split` at a character. -/
def splitAt (separator : Char) (text : String) : List String :=
  (splitList (· == separator) false false text.toList).map .ofList

/-- `endsWith`. -/
def endsWith (text ending : String) : Bool :=
  ending.toList.isSuffixOf text.toList

/-- `startsWith`. -/
def startsWith (text beginning : String) : Bool :=
  beginning.toList.isPrefixOf text.toList

/-- Replaces the first occurrence of a pattern that is not empty. -/
def replaceList (pattern replacement : List Char) : List Char → List Char
  | [] => []
  | char :: rest =>
      if pattern.isPrefixOf (char :: rest) then
        replacement ++ (char :: rest).drop pattern.length
      else char :: replaceList pattern replacement rest

/-- `replace` of a string by a text without `$`. -/
def replace (text pattern replacement : String) : String :=
  .ofList (replaceList pattern.toList replacement.toList text.toList)

/-- `length`: UTF-16 code units. -/
def length (text : String) : Nat :=
  (text.toList.map fun char => if char.toNat < 0x10000 then 1 else 2).sum

end Text

end SaasFoundation
