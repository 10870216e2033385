import Mathlib.Data.List.Basic
import Mathlib.Tactic.Ring

/-! Byte encodings that can be read back: fixed-width big-endian numbers, fields that
carry their length, and the textual renderings written into such fields.
-/
namespace P2pstream.Library.Encoding
open List Nat

abbrev Bytes := List UInt8

instance : LawfulBEq Bytes := inferInstance

/-- The low `width` bytes of a number, most significant first. -/
def bigEndian : Nat → Nat → Bytes
  | 0,_ => []
  | width + 1,number => UInt8.ofNat (number / 256 ^ width) :: bigEndian width number

@[simp]
theorem length_bigEndian (width number : Nat) : (bigEndian width number).length = width := by
  induction width with
  | zero => rfl
  | succ _ ih => simp [bigEndian,ih]

variable {left right width : Nat}

private theorem ofNat_eq (same : UInt8.ofNat left = UInt8.ofNat right) : left % 256 = right % 256 := by
  have bytes := congrArg UInt8.toNat same
  simpa using bytes

private theorem mod_split (width number : Nat) :
    number % 256 ^ (width + 1) = number % 256 ^ width + 256 ^ width * (number / 256 ^ width % 256) := by
  rw [pow_succ,mod_mul]

theorem bigEndian_mod (same : bigEndian width left = bigEndian width right) : left % 256 ^ width = right % 256 ^ width := by
  induction width with
  | zero => simp [mod_one]
  | succ _ ih =>
    simp only [bigEndian,cons.injEq] at same
    rw [mod_split,mod_split,ih same.2,ofNat_eq same.1]

/-- A field: its length in `width` bytes, then its bytes. -/
def field (width : Nat) (value : Bytes) : Bytes := bigEndian width value.length ++ value

theorem field_append {left right restLeft restRight : Bytes} (short : left.length < 256 ^ width)
    (brief : right.length < 256 ^ width) (same : field width left ++ restLeft = field width right ++ restRight) :
    left = right ∧ restLeft = restRight := by
  simp only [field,append_assoc] at same
  obtain ⟨lengths,rest⟩ := append_inj same (by simp)
  have sizes : left.length = right.length := by
    have residues := bigEndian_mod lengths
    rwa [mod_eq_of_lt short,mod_eq_of_lt brief] at residues
  exact append_inj rest sizes

def fields (width : Nat) (values : List Bytes) : Bytes := values.flatMap (field width)

private theorem field_ne_nil (positive : 0 < width) (value rest : Bytes) : field width value ++ rest ≠ [] := by
  intro empty
  have sizes := congrArg length empty
  simp [field] at sizes
  omega

theorem fields_injective (positive : 0 < width) {left right : List Bytes}
    (short : ∀ value ∈ left, value.length < 256 ^ width) (brief : ∀ value ∈ right, value.length < 256 ^ width)
    (same : fields width left = fields width right) : left = right := by
  induction left generalizing right with
  | nil =>
    cases right with
    | nil => rfl
    | cons value rest => exact absurd same.symm (field_ne_nil positive value (fields width rest))
  | cons value rest ih =>
    cases right with
    | nil => exact absurd same (field_ne_nil positive value (fields width rest))
    | cons other =>
      obtain ⟨rfl,tails⟩ := field_append (short value (by simp)) (brief other (by simp)) same
      rw [ih (fun item mem => short item (by simp [mem])) (fun item mem => brief item (by simp [mem]))
        tails]

def text (value : String) : Bytes := value.toUTF8.data.toList

theorem text_injective {left right : String} (same : text left = text right) : left = right := by
  apply String.toByteArray_inj.mp
  apply ByteArray.ext
  exact Array.toList_inj.mp same

@[simp]
theorem text_inj {left right : String} : text left = text right ↔ left = right := ⟨text_injective,congrArg text⟩

theorem length_text (value : String) : (text value).length = value.utf8ByteSize := rfl

theorem length_text_le (value : String) : (text value).length ≤ 4 * value.toList.length := by
  rw [length_text,← String.ofList_toList (s := value),String.toList_ofList]
  induction value.toList with
  | nil => simp
  | cons char =>
    have size := char.utf8Size_le_four
    rw [String.ofList_cons,String.utf8ByteSize_append,String.utf8ByteSize_singleton,length_cons]
    omega

theorem text_ofList {chars : List Char} (ascii : ∀ char ∈ chars, char.toNat < 128) :
    text (String.ofList chars) = chars.map fun char => UInt8.ofNat char.toNat := by
  have encoded : text (String.ofList chars) = chars.flatMap String.utf8EncodeChar := by
    simp [text,String.ofList,utf8Encode]
  rw [encoded]
  induction chars with
  | nil => rfl
  | cons char _ ih =>
    have small : char.toNat ≤ 127 := le_of_lt_succ (ascii char (by simp))
    have one : String.utf8EncodeChar char = [UInt8.ofNat char.toNat] := if_pos small
    rw [flatMap_cons,one,ih (fun other mem => ascii other (by simp [mem])) (by simp [text,String.ofList,utf8Encode])]
    rfl

def formatInt (value : Int) : Bytes := text value.repr

private def decimal (digits : List Char) : Nat := digits.foldl (fun value digit => 10 * value + (digit.toNat - 48)) 0

private theorem toNat_digitChar : ∀ digit < 10, (digitChar digit).toNat - 48 = digit := by
  decide

private theorem decimal_toDigits (number : Nat) : decimal (toDigits 10 number) = number := by
  -- Strong induction: the last digit is split off as the conversion does.
  induction number using Nat.strongRecOn with
  | _ number ih =>
    by_cases small : number < 10
    · rw [toDigits_of_lt_base small]
      simpa [decimal] using toNat_digitChar number small
    · rw [toDigits_of_base_le (by omega) (by omega),decimal,foldl_append]
      have prior := ih (number / 10) (by omega)
      have last := toNat_digitChar (number % 10) (by omega)
      simp only [decimal] at prior
      simp only [prior,foldl_cons,foldl_nil,last]
      omega

private theorem repr_injective (same : left.repr = right.repr) : left = right := by
  have digits := congrArg String.toList same
  rw [toList_repr,toList_repr] at digits
  rw [← decimal_toDigits left,← decimal_toDigits right,digits]

private theorem repr_ne_negative (left right : Nat) : left.repr ≠ "-" ++ right.repr := by
  intro same
  have chars := congrArg String.toList same
  rw [toList_repr,String.toList_append] at chars
  have sign : '-' ∈ toDigits 10 left := by
    rw [chars]
    exact mem_append_left _ (by decide)
  exact absurd (isDigit_of_mem_toDigits (by omega) (by omega) sign) (by decide)

theorem formatInt_injective {left right : Int} (same : formatInt left = formatInt right) : left = right := by
  have rendered : left.repr = right.repr := text_injective same
  cases left with
  | ofNat left =>
    cases right with
    | ofNat => rw [repr_injective rendered]
    | negSucc right => exact absurd rendered (repr_ne_negative left (right + 1))
  | negSucc left =>
    cases right with
    | ofNat right => exact absurd rendered.symm (repr_ne_negative right (left + 1))
    | negSucc right =>
      have magnitudes : left + 1 = right + 1 := by
        apply repr_injective
        apply String.toList_inj.mp
        have chars := congrArg String.toList rendered
        simp only [Int.repr,String.toList_append] at chars
        exact append_cancel_left chars
      rw [succ.inj magnitudes]

@[simp]
theorem formatInt_inj {left right : Int} : formatInt left = formatInt right ↔ left = right :=
  ⟨formatInt_injective,congrArg formatInt⟩

private theorem length_repr_le {number bound : Nat} (positive : 0 < bound) (small : number < 10 ^ bound) :
    number.repr.toList.length ≤ bound := by
  rw [toList_repr]
  exact (length_toDigits_le_iff (by omega) positive).mpr small

theorem length_formatInt_le {value : Int} {digits : Nat} (positive : 0 < digits)
    (small : value.natAbs < 10 ^ digits) : (formatInt value).length ≤ 4 * (digits + 1) := by
  refine (length_text_le _).trans ?_
  have magnitude := length_repr_le positive small
  cases value with
  | ofNat =>
    simp only [Int.repr]
    simp only [Int.ofNat_eq_natCast,Int.natAbs_natCast] at magnitude
    omega
  | negSucc =>
    simp only [Int.natAbs_negSucc] at magnitude
    simp only [Int.repr,String.toList_append,length_append]
    have sign : "-".toList.length = 1 := by decide
    omega

def hexDigit (nibble : Fin 16) : UInt8 :=
  if nibble.val < 10 then UInt8.ofNat (48 + nibble.val) else UInt8.ofNat (87 + nibble.val)

def hex : Bytes → Bytes
  | [] => []
  | byte :: rest =>
    hexDigit (Fin.ofNat 16 (byte.toNat / 16)) :: hexDigit (Fin.ofNat 16 byte.toNat) :: hex rest

@[simp]
theorem length_hex (value : Bytes) : (hex value).length = 2 * value.length := by
  induction value with
  | nil => rfl
  | cons _ _ ih =>
    simp only [hex,length_cons,ih]
    omega

theorem hexDigit_ascii : ∀ nibble : Fin 16, 48 ≤ (hexDigit nibble).toNat ∧ (hexDigit nibble).toNat < 103 ∧
    ((hexDigit nibble).toNat ≤ 57 ∨ 97 ≤ (hexDigit nibble).toNat) := by
  decide

theorem mem_hex {value : Bytes} {byte : UInt8} (mem : byte ∈ hex value) : ∃ nibble, byte = hexDigit nibble := by
  induction value with
  | nil => simp [hex] at mem
  | cons _ _ ih =>
    simp only [hex,mem_cons] at mem
    rcases mem with rfl | rfl | mem
    · exact ⟨_,rfl⟩
    · exact ⟨_,rfl⟩
    · exact ih mem

private theorem hexDigit_injective : ∀ left right : Fin 16, hexDigit left = hexDigit right → left = right := by
  decide

private theorem byte_of_digits {left right : UInt8}
    (high : hexDigit (Fin.ofNat 16 (left.toNat / 16)) = hexDigit (Fin.ofNat 16 (right.toNat / 16)))
    (low : hexDigit (Fin.ofNat 16 left.toNat) = hexDigit (Fin.ofNat 16 right.toNat)) : left = right := by
  have upper := congrArg Fin.val (hexDigit_injective _ _ high)
  have lower := congrArg Fin.val (hexDigit_injective _ _ low)
  simp only [Fin.ofNat] at upper lower
  have boundLeft := left.toNat_lt
  have boundRight := right.toNat_lt
  apply UInt8.toNat_inj.mp
  omega

theorem hex_injective {left right : Bytes} (same : hex left = hex right) : left = right := by
  induction left generalizing right with
  | nil =>
    cases right with
    | nil => rfl
    | cons => simp [hex] at same
  | cons _ _ ih =>
    cases right with
    | nil => simp [hex] at same
    | cons =>
      simp only [hex,cons.injEq] at same
      rw [byte_of_digits same.1 same.2.1,ih same.2.2]

@[simp]
theorem hex_inj {left right : Bytes} : hex left = hex right ↔ left = right := ⟨hex_injective,congrArg hex⟩

end P2pstream.Library.Encoding
