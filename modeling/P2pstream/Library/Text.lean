import Mathlib.Data.List.TakeWhile
import P2pstream.Library.Encoding

/-! Byte strings cut, trimmed and read as numbers.
-/
namespace P2pstream.Library.Text
open List
open Library.Encoding (Bytes)

def spaces : List Bytes :=
  [[0x09],[0x0a],[0x0b],[0x0c],[0x0d],[0x20],[0xc2,0x85],[0xc2,0xa0],[0xe1,0x9a,0x80],[0xe2,0x80,0x80],[0xe2,0x80,0x81],
    [0xe2,0x80,0x82],[0xe2,0x80,0x83],[0xe2,0x80,0x84],[0xe2,0x80,0x85],[0xe2,0x80,0x86],[0xe2,0x80,0x87],[0xe2,0x80,0x88],
    [0xe2,0x80,0x89],[0xe2,0x80,0x8a],[0xe2,0x80,0xa8],[0xe2,0x80,0xa9],[0xe2,0x80,0xaf],[0xe2,0x81,0x9f],[0xe3,0x80,0x80]]

def trimStart (patterns : List Bytes) : Nat → Bytes → Bytes
  | 0,value => value
  | fuel + 1,value =>
    match patterns.find? (·.isPrefixOf value) with
    | none => value
    | some pattern => trimStart patterns fuel (value.drop pattern.length)

def trimEnd (patterns : List Bytes) (value : Bytes) : Bytes :=
  (trimStart (patterns.map reverse) value.length value.reverse).reverse

def trimSpace (value : Bytes) : Bytes := trimEnd spaces (trimStart spaces value.length value)

def trimSet (set : Bytes) (value : Bytes) : Bytes := ((value.dropWhile (· ∈ set)).reverse.dropWhile (· ∈ set)).reverse

def containsAny (set : Bytes) (value : Bytes) : Bool := value.any (· ∈ set)

def cut (separator : UInt8) (value : Bytes) : Option (Bytes × Bytes) :=
  if separator ∈ value then some (value.takeWhile (· ≠ separator),(value.dropWhile (· ≠ separator)).tail) else none

def cutLast (separator : UInt8) (value : Bytes) : Option (Bytes × Bytes) :=
  (cut separator value.reverse).map fun parts => (parts.2.reverse,parts.1.reverse)

theorem cut_append {separator : UInt8} {front : Bytes} (rest : Bytes) (clear : separator ∉ front) :
    cut separator (front ++ separator :: rest) = some (front,rest) := by
  have kept : ∀ byte ∈ front, (decide (byte ≠ separator)) :=
    fun _ mem => decide_eq_true fun same => clear (same ▸ mem)
  rw [cut,takeWhile_append_of_pos kept,dropWhile_append_of_pos kept]
  simp

theorem cutLast_append {separator : UInt8} {rest : Bytes} (front : Bytes) (clear : separator ∉ rest) :
    cutLast separator (front ++ separator :: rest) = some (front,rest) := by
  have turned : (front ++ separator :: rest).reverse = rest.reverse ++ separator :: front.reverse := by simp
  rw [cutLast,turned,cut_append _ (by simpa using clear)]
  simp

variable {value : Bytes}

theorem trimStart_of_head {patterns : List Bytes} (fuel : Nat) (solid : ∀ pattern ∈ patterns, ¬ pattern <+: value) :
    trimStart patterns fuel value = value := by
  cases fuel with
  | zero => rfl
  | succ =>
    have unfound : patterns.find? (·.isPrefixOf value) = none := by
      rw [find?_eq_none]
      intro pattern mem starts
      exact solid pattern mem (List.isPrefixOf_iff_prefix.mp starts)
    rw [trimStart,unfound]

def Solid (patterns : List Bytes) (value : Bytes) : Prop := ∀ pattern ∈ patterns, ¬ pattern <+: value ∧ ¬ pattern <:+ value

theorem trimSpace_of_solid (solid : Solid spaces value) : trimSpace value = value := by
  rw [trimSpace,trimStart_of_head _ fun pattern mem => (solid pattern mem).1,trimEnd,trimStart_of_head,reverse_reverse]
  intro _ mem
  obtain ⟨pattern,known,rfl⟩ := mem_map.mp mem
  rw [List.reverse_prefix]
  exact (solid pattern known).2

def Plain (value : Bytes) : Prop := ∀ byte ∈ value, 0x21 ≤ byte ∧ byte < 0x7f

private theorem spaces_unprintable : ∀ pattern ∈ spaces, ∃ byte ∈ pattern, ¬ (0x21 ≤ byte ∧ byte < 0x7f) := by
  decide

theorem trimSpace_of_plain (plain : Plain value) : trimSpace value = value := by
  apply trimSpace_of_solid
  intro pattern mem
  obtain ⟨byte,inside,unprintable⟩ := spaces_unprintable pattern mem
  exact ⟨fun starts => unprintable (plain byte (starts.subset inside)),
    fun ends => unprintable (plain byte (ends.subset inside))⟩

def isDigit (byte : UInt8) : Bool := 0x30 ≤ byte && byte ≤ 0x39

def digitValue (byte : UInt8) : Nat := byte.toNat - 0x30

def decimal (digits : Bytes) : Nat := digits.foldl (fun value digit => 10 * value + digitValue digit) 0

def readDecimal (value : Bytes) : Option Nat := if value ≠ [] ∧ value.all isDigit then some (decimal value) else none

def itoa (number : Nat) : Bytes := (Nat.toDigits 10 number).map fun char => UInt8.ofNat char.toNat

private theorem digitChar_digit : ∀ place < 10, isDigit (UInt8.ofNat (Nat.digitChar place).toNat) ∧
      digitValue (UInt8.ofNat (Nat.digitChar place).toNat) = place := by
  decide

theorem decimal_itoa (number : Nat) : decimal (itoa number) = number ∧ (itoa number).all isDigit := by
  -- The last digit is split off as the conversion does.
  induction number using Nat.strongRecOn with
  | _ number ih =>
    by_cases small : number < 10
    · obtain ⟨is,reads⟩ := digitChar_digit number small
      rw [itoa,Nat.toDigits_of_lt_base small]
      simp [decimal,is,reads]
    · obtain ⟨prior,digits⟩ := ih (number / 10) (by omega)
      obtain ⟨is,reads⟩ := digitChar_digit (number % 10) (by omega)
      rw [itoa,Nat.toDigits_of_base_le (by omega) (by omega),map_append,← itoa]
      refine ⟨?_,by simp [digits,is]⟩
      rw [decimal,foldl_append,← decimal]
      simp only [map_cons,map_nil,foldl_cons,foldl_nil,reads]
      omega

theorem mem_itoa {number : Nat} {byte : UInt8} (mem : byte ∈ itoa number) : 0x30 ≤ byte ∧ byte ≤ 0x39 := by
  have is := all_eq_true.mp (decimal_itoa number).2 byte mem
  simpa [isDigit] using is

theorem itoa_ne_nil (number : Nat) : itoa number ≠ [] := by
  intro empty
  have digits := congrArg length empty
  simp only [itoa,length_map,length_nil] at digits
  exact Nat.toDigits_ne_nil (length_eq_zero_iff.mp digits)

end P2pstream.Library.Text
