import P2pstream.Library.Tables
import P2pstream.Library.Text

/-! Header fields of a request: a map from canonical names to the lines with that name, in
the order in which they came.
-/
namespace P2pstream.Library.Headers
open List AList
open Library.Encoding (Bytes text)
open Library.Text (isDigit)

def isUpper (byte : UInt8) : Bool := 0x41 ≤ byte && byte ≤ 0x5a

def isLower (byte : UInt8) : Bool := 0x61 ≤ byte && byte ≤ 0x7a

def lowerByte (byte : UInt8) : UInt8 := if isUpper byte then byte + 0x20 else byte

def upperByte (byte : UInt8) : UInt8 := if isLower byte then byte - 0x20 else byte

def lower (value : Bytes) : Bytes := value.map lowerByte

def tokenByte (byte : UInt8) : Bool := isDigit byte || isUpper byte || isLower byte || byte ∈ text "!#$%&'*+-.^_`|~"

def validFieldName (name : Bytes) : Bool := name ≠ [] && name.all tokenByte

def dash : UInt8 := 0x2d

def canonicalBytes : Bool → Bytes → Bytes
  | _,[] => []
  | upper,byte :: rest => (if upper then upperByte byte else lowerByte byte) :: canonicalBytes (byte = dash) rest

def canonicalKey (name : Bytes) : Bytes := if name.all tokenByte then canonicalBytes true name else name

abbrev Header := Table Bytes (List Bytes)

namespace Header

def values (h : Header) (name : Bytes) : List Bytes := (h.lookup (canonicalKey name)).getD []

def get (h : Header) (name : Bytes) : Bytes := (h.values name).head?.getD []

def del (h : Header) (name : Bytes) : Header := h.erase (canonicalKey name)

def set (h : Header) (name value : Bytes) : Header := h.insert (canonicalKey name) [value]

def add (h : Header) (name value : Bytes) : Header := h.insert (canonicalKey name) (h.values name ++ [value])

variable (h : Header) (name other value : Bytes)

theorem values_del : (h.del name).values other = if canonicalKey other = canonicalKey name then [] else h.values other := by
  unfold values del
  split
  · rename_i same
    rw [same,lookup_erase]
    rfl
  · rename_i different
    rw [lookup_erase_ne different]

theorem values_set : (h.set name value).values other =
    if canonicalKey other = canonicalKey name then [value] else h.values other := by
  unfold values set
  split
  · rename_i same
    rw [same,lookup_insert]
    rfl
  · rename_i different
    rw [lookup_insert_ne different]

theorem values_add : (h.add name value).values other =
    if canonicalKey other = canonicalKey name then h.values name ++ [value] else h.values other := by
  unfold add
  split
  · rename_i same
    unfold values
    rw [same,lookup_insert]
    rfl
  · rename_i different
    unfold values
    rw [lookup_insert_ne different]

theorem values_congr {name other : Bytes} (same : canonicalKey name = canonicalKey other) : h.values name = h.values other := by
  rw [values,values,same]

theorem values_foldl_del (names : List Bytes) :
    (names.foldl del h).values other = if canonicalKey other ∈ names.map canonicalKey then [] else h.values other := by
  induction names generalizing h with
  | nil => rfl
  | cons first rest ih =>
    rw [foldl_cons,ih,values_del,map_cons]
    by_cases later : canonicalKey other ∈ rest.map canonicalKey
    · rw [if_pos later,if_pos (mem_cons_of_mem _ later)]
    · by_cases here : canonicalKey other = canonicalKey first
      · rw [if_neg later,if_pos here,if_pos (here ▸ mem_cons_self)]
      · rw [if_neg later,if_neg here,if_neg]
        simp only [mem_cons,here,later,or_self,not_false_eq_true]

end Header

theorem isLower_shifted {byte : UInt8} (upper : isUpper byte) : isLower (byte + 0x20) := by
  simp only [isUpper,isLower,Bool.and_eq_true,decide_eq_true_eq,UInt8.le_iff_toNat_le,UInt8.toNat_add,
    UInt8.reduceToNat] at upper ⊢
  omega

theorem isUpper_shifted {byte : UInt8} (lower : isLower byte) : isUpper (byte - 0x20) := by
  simp only [isUpper,isLower,Bool.and_eq_true,decide_eq_true_eq,UInt8.le_iff_toNat_le,UInt8.toNat_sub,
    UInt8.reduceToNat] at lower ⊢
  omega

theorem tokenByte_case {byte : UInt8} (token : tokenByte byte) :
    tokenByte (lowerByte byte) ∧ tokenByte (upperByte byte) := by
  unfold lowerByte upperByte
  constructor
  · split
    next upper => simp [tokenByte,isLower_shifted upper]
    next => exact token
  · split
    next lower => simp [tokenByte,isUpper_shifted lower]
    next => exact token

theorem byte_case (byte : UInt8) : lowerByte (lowerByte byte) = lowerByte byte ∧ upperByte (lowerByte byte) = upperByte byte ∧
    lowerByte (upperByte byte) = lowerByte byte ∧ upperByte (upperByte byte) = upperByte byte ∧
    (lowerByte byte = dash ↔ byte = dash) ∧ (upperByte byte = dash ↔ byte = dash) := by
  unfold lowerByte upperByte isUpper isLower dash
  grind

theorem canonicalBytes_lower (upper : Bool) (name : Bytes) : canonicalBytes upper (lower name) = canonicalBytes upper name := by
  induction name generalizing upper with
  | nil => rfl
  | cons byte _ ih =>
    obtain ⟨down,up,_,_,turns,_⟩ := byte_case byte
    simp only [lower,map_cons,canonicalBytes] at ih ⊢
    rw [down,up,ih]
    simp only [turns]

theorem canonicalBytes_canonicalBytes (upper : Bool) (name : Bytes) :
    canonicalBytes upper (canonicalBytes upper name) = canonicalBytes upper name := by
  induction name generalizing upper with
  | nil => rfl
  | cons byte _ ih =>
    obtain ⟨down,_,_,up,turns,rises⟩ := byte_case byte
    cases upper with
    | true =>
      simp only [canonicalBytes,if_true]
      rw [up]
      simp only [rises]
      rw [ih]
    | false =>
      simp only [canonicalBytes,Bool.false_eq_true,if_false]
      rw [down]
      simp only [turns]
      rw [ih]

theorem all_canonicalBytes (upper : Bool) {name : Bytes} (token : name.all tokenByte) :
    (canonicalBytes upper name).all tokenByte := by
  induction name generalizing upper with
  | nil => rfl
  | cons _ _ ih =>
    rw [all_cons,Bool.and_eq_true] at token
    rw [canonicalBytes,all_cons,ih _ token.2,Bool.and_true]
    cases upper
    · exact (tokenByte_case token.1).1
    · exact (tokenByte_case token.1).2

@[simp]
theorem canonicalKey_canonicalKey (name : Bytes) : canonicalKey (canonicalKey name) = canonicalKey name := by
  by_cases token : name.all tokenByte
  · have canonical : canonicalKey name = canonicalBytes true name := if_pos token
    rw [canonical,canonicalKey,if_pos (all_canonicalBytes true token),canonicalBytes_canonicalBytes]
  · have same : canonicalKey name = name := if_neg token
    rw [same,same]

theorem canonicalKey_of_lower {name other : Bytes} (token : name.all tokenByte) (token' : other.all tokenByte)
    (same : lower name = lower other) : canonicalKey name = canonicalKey other := by
  rw [canonicalKey,if_pos token,canonicalKey,if_pos token',← canonicalBytes_lower,same,canonicalBytes_lower]

end P2pstream.Library.Headers
