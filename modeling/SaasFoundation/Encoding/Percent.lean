import Mathlib.Data.List.Basic

/-!
# Percent-encoding over UTF-8

`Encode` and `Decode` of ECMA-262: a character outside of a set is written as
the escapes of its UTF-8 octets, and a run of escapes is read back as one
character when its octets are a valid encoding of one.
-/

namespace Percent

/-- An upper-case hexadecimal digit. -/
def hexDigit (value : Nat) : Char :=
  Char.ofNat (if value < 10 then 48 + value else 55 + value)

def hexValue (digit : Char) : Option Nat :=
  if '0' ≤ digit ∧ digit ≤ '9' then some (digit.toNat - 48)
  else if 'A' ≤ digit ∧ digit ≤ 'F' then some (digit.toNat - 55)
  else if 'a' ≤ digit ∧ digit ≤ 'f' then some (digit.toNat - 87)
  else none

def escape (octet : UInt8) : List Char :=
  ['%', hexDigit (octet.toNat / 16), hexDigit (octet.toNat % 16)]

section Encode

variable (plain : Char → Bool)

def encodeChar (char : Char) : List Char :=
  if plain char then [char]
  else (String.utf8EncodeChar char).flatMap escape

def encode (text : List Char) : List Char :=
  text.flatMap (encodeChar plain)

end Encode

/-- A character that stands for itself, or an escape. -/
inductive Token where
  | plain (char : Char)
  | octet (octet : UInt8)
  deriving DecidableEq, Repr

/-- A percent sign without two hexadecimal digits is an error. -/
def tokens : List Char → Option (List Token)
  | [] => some []
  | char :: rest =>
      if char = '%' then
        match rest with
        | high :: low :: others =>
            (hexValue high).bind fun high =>
              (hexValue low).bind fun low =>
                (tokens others).map
                  (.octet (UInt8.ofNat (16 * high + low)) :: ·)
        | _ => none
      else (tokens rest).map (.plain char :: ·)

/-- The octets of the character a first octet begins, by its leading ones. -/
def width (first : UInt8) : Option Nat :=
  if first &&& 0x80 = 0 then some 1
  else if first &&& 0xe0 = 0xc0 then some 2
  else if first &&& 0xf0 = 0xe0 then some 3
  else if first &&& 0xf8 = 0xf0 then some 4
  else none

/-- The character all the octets together encode. -/
def decodeOctets (octets : List UInt8) : Option Char :=
  (ByteArray.utf8DecodeChar? octets.toByteArray 0).filter
    (·.utf8Size = octets.length)

/-- Read tokens behind the octets of an unfinished character. -/
def assemble (pending : List UInt8) : List Token → Option (List Char)
  | [] => if pending = [] then some [] else none
  | .plain char :: rest =>
      if pending = [] then (assemble [] rest).map (char :: ·) else none
  | .octet octet :: rest =>
      ((pending ++ [octet]).head?.bind width).bind fun size =>
        if (pending ++ [octet]).length < size then
          assemble (pending ++ [octet]) rest
        else
          (decodeOctets (pending ++ [octet])).bind fun char =>
            (assemble [] rest).map (char :: ·)

/-- `none` where `decodeURIComponent` throws. -/
def decode (text : List Char) : Option (List Char) :=
  (tokens text).bind (assemble [])

theorem hexValue_hexDigit {value : Nat} (small : value < 16) :
    hexValue (hexDigit value) = some value := by
  have all : ∀ value : Fin 16, hexValue (hexDigit value) = some value.val := by
    decide
  exact all ⟨value, small⟩

theorem tokens_escape (octet : UInt8) (rest : List Char) :
    tokens (escape octet ++ rest) = (tokens rest).map (.octet octet :: ·) := by
  have bound : octet.toNat < 256 := octet.toNat_lt
  have high : hexValue (hexDigit (octet.toNat / 16)) =
      some (octet.toNat / 16) :=
    hexValue_hexDigit (by omega)
  have low : hexValue (hexDigit (octet.toNat % 16)) =
      some (octet.toNat % 16) :=
    hexValue_hexDigit (by omega)
  have whole : 16 * (octet.toNat / 16) + octet.toNat % 16 = octet.toNat := by
    omega
  rw [escape, List.cons_append, List.cons_append, List.cons_append, tokens,
    if_pos rfl, high, low]
  simp only [Option.bind_some, List.nil_append, whole, UInt8.ofNat_toNat]

theorem tokens_escapes (octets : List UInt8) (rest : List Char) :
    tokens (octets.flatMap escape ++ rest) =
      (tokens rest).map (octets.map .octet ++ ·) := by
  induction octets with
  | nil => simp
  | cons octet octets hypothesis =>
      rw [List.flatMap_cons, List.append_assoc, tokens_escape, hypothesis]
      cases tokens rest with
      | none => rfl
      | some others => rfl

theorem tokens_plain {char : Char} (other : char ≠ '%') (rest : List Char) :
    tokens (char :: rest) = (tokens rest).map (.plain char :: ·) := by
  cases rest with
  | nil => simp [tokens, other]
  | cons second rest =>
      cases rest <;> simp [tokens, other]

theorem width_one (octet : UInt8) (ascii : octet.toNat < 128) :
    width octet = some 1 := by
  have all : ∀ bits : BitVec 8, bits.toNat < 128 →
      width (UInt8.ofBitVec bits) = some 1 := by
    decide +kernel
  exact all octet.toBitVec ascii

theorem width_two (octet : UInt8) :
    width (octet &&& 0x1f ||| 0xc0) = some 2 := by
  have all : ∀ bits : BitVec 8,
      width (UInt8.ofBitVec bits &&& 0x1f ||| 0xc0) = some 2 := by
    decide +kernel
  exact all octet.toBitVec

theorem width_three (octet : UInt8) :
    width (octet &&& 0x0f ||| 0xe0) = some 3 := by
  have all : ∀ bits : BitVec 8,
      width (UInt8.ofBitVec bits &&& 0x0f ||| 0xe0) = some 3 := by
    decide +kernel
  exact all octet.toBitVec

theorem width_four (octet : UInt8) :
    width (octet &&& 0x07 ||| 0xf0) = some 4 := by
  have all : ∀ bits : BitVec 8,
      width (UInt8.ofBitVec bits &&& 0x07 ||| 0xf0) = some 4 := by
    decide +kernel
  exact all octet.toBitVec

/-- The first octet of a character tells how many there are. -/
theorem width_utf8EncodeChar (char : Char) :
    (String.utf8EncodeChar char).head?.bind width =
      some (String.utf8EncodeChar char).length := by
  rw [String.length_utf8EncodeChar]
  obtain size | size | size | size := char.utf8Size_eq
  · have small : char.val.toNat ≤ 127 :=
      UInt32.le_iff_toNat_le.mp (Char.utf8Size_eq_one_iff.mp size)
    rw [String.utf8EncodeChar_eq_singleton size, size]
    apply width_one
    rw [UInt32.toNat_toUInt8]
    omega
  · rw [String.utf8EncodeChar_eq_cons_cons size, size]
    exact width_two _
  · rw [String.utf8EncodeChar_eq_cons_cons_cons size, size]
    exact width_three _
  · rw [String.utf8EncodeChar_eq_cons_cons_cons_cons size, size]
    exact width_four _

theorem decodeOctets_utf8EncodeChar (char : Char) :
    decodeOctets (String.utf8EncodeChar char) = some char := by
  have decoded : ByteArray.utf8DecodeChar?
      (String.utf8EncodeChar char).toByteArray 0 = some char := by
    have appended := @ByteArray.utf8DecodeChar?_utf8EncodeChar_append
      ByteArray.empty char
    rwa [ByteArray.append_empty] at appended
  rw [decodeOctets, decoded, String.length_utf8EncodeChar]
  simp

/-- The octets still to come of a character complete it. -/
theorem assemble_remaining {char : Char} {pending remaining : List UInt8}
    (octets : pending ++ remaining = String.utf8EncodeChar char)
    (more : remaining ≠ []) (rest : List Token) :
    assemble pending (remaining.map .octet ++ rest) =
      (assemble [] rest).map (char :: ·) := by
  induction remaining generalizing pending with
  | nil => exact absurd rfl more
  | cons octet remaining hypothesis =>
      have shifted : (pending ++ [octet]) ++ remaining =
          String.utf8EncodeChar char := by
        rw [← octets, List.append_assoc]
        rfl
      have first : (pending ++ [octet]).head? =
          (String.utf8EncodeChar char).head? := by
        rw [← shifted]
        cases pending <;> rfl
      rw [List.map_cons, List.cons_append, assemble, first,
        width_utf8EncodeChar, Option.bind_some]
      by_cases last : remaining = []
      · subst last
        rw [List.append_nil] at shifted
        rw [shifted, if_neg (Nat.lt_irrefl _), decodeOctets_utf8EncodeChar]
        rfl
      · have short : (pending ++ [octet]).length <
            (String.utf8EncodeChar char).length := by
          have left := List.length_pos_iff.mpr last
          rw [← shifted, @List.length_append _ (pending ++ [octet])]
          omega
        rw [if_pos short]
        exact hypothesis shifted last

theorem assemble_char (char : Char) (rest : List Token) :
    assemble [] ((String.utf8EncodeChar char).map .octet ++ rest) =
      (assemble [] rest).map (char :: ·) := by
  apply assemble_remaining
  · rfl
  · intro empty
    have positive := char.utf8Size_pos
    rw [← String.length_utf8EncodeChar, empty] at positive
    exact absurd positive (Nat.lt_irrefl _)

section RoundTrip

variable {plain : Char → Bool}

theorem mem_escape {octet : UInt8} {char : Char}
    (member : char ∈ escape octet) :
    char = '%' ∨ ∃ value : Fin 16, char = hexDigit value := by
  have bound : octet.toNat < 256 := octet.toNat_lt
  simp only [escape, List.mem_cons, List.not_mem_nil, or_false] at member
  obtain percent | high | low := member
  · exact .inl percent
  · exact .inr ⟨⟨octet.toNat / 16, by omega⟩, high⟩
  · exact .inr ⟨⟨octet.toNat % 16, by omega⟩, low⟩

theorem mem_encode {text : List Char} {char : Char}
    (member : char ∈ encode plain text) :
    plain char = true ∨ char = '%' ∨ ∃ value : Fin 16, char = hexDigit value := by
  obtain ⟨source, _, written⟩ := List.mem_flatMap.mp member
  unfold encodeChar at written
  by_cases itself : plain source = true
  · rw [if_pos itself, List.mem_singleton] at written
    exact .inl (written ▸ itself)
  · rw [if_neg itself] at written
    obtain ⟨octet, _, escaped⟩ := List.mem_flatMap.mp written
    exact .inr (mem_escape escaped)

/-- A character that is always escaped and takes no part in escapes. -/
theorem not_mem_encode {text : List Char} {separator : Char}
    (special : plain separator = false) (percent : separator ≠ '%')
    (digit : ∀ value : Fin 16, separator ≠ hexDigit value) :
    separator ∉ encode plain text := by
  intro member
  obtain itself | sign | ⟨value, same⟩ := mem_encode member
  · rw [special] at itself
    exact absurd itself (by decide)
  · exact percent sign
  · exact digit value same

theorem decode_encode_append (percent : plain '%' = false)
    (text rest : List Char) :
    decode (encode plain text ++ rest) = (decode rest).map (text ++ ·) := by
  induction text with
  | nil => simp [encode]
  | cons char text hypothesis =>
      have step : decode (encodeChar plain char ++
          (encode plain text ++ rest)) =
          (decode (encode plain text ++ rest)).map (char :: ·) := by
        unfold encodeChar decode
        by_cases itself : plain char = true
        · have other : char ≠ '%' := by
            intro same
            rw [same, percent] at itself
            exact absurd itself (by decide)
          rw [if_pos itself, List.singleton_append, tokens_plain other]
          cases tokens (encode plain text ++ rest) <;> rfl
        · rw [if_neg itself, tokens_escapes]
          cases tokens (encode plain text ++ rest) with
          | none => rfl
          | some others => exact assemble_char char others
      have split : encode plain (char :: text) ++ rest =
          encodeChar plain char ++ (encode plain text ++ rest) := by
        rw [encode, List.flatMap_cons, List.append_assoc]
        rfl
      rw [split, step, hypothesis, Option.map_map]
      rfl

theorem decode_encode (percent : plain '%' = false) (text : List Char) :
    decode (encode plain text) = some text := by
  have appended := decode_encode_append percent text []
  rw [List.append_nil] at appended
  rw [appended]
  simp [decode, tokens, assemble]

end RoundTrip

end Percent
