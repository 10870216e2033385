import P2pstream.Library.Text

/-! Network addresses and address prefixes: IPv4 and IPv6 addresses, the IPv4 addresses
written as IPv6, masks and containment.
-/
namespace P2pstream.Library.Addresses
open Library.Encoding (Bytes)

inductive Addr where
  | v4 (bits : BitVec 32)
  | v6 (bits : BitVec 128) (zone : Bytes)
  deriving DecidableEq

namespace Addr

def is4 : Addr → Bool
  | .v4 _ => true
  | .v6 _ _ => false

def is6 (addr : Addr) : Bool := ¬ addr.is4

def zone : Addr → Bytes
  | .v4 _ => []
  | .v6 _ zone => zone

def bitLen : Addr → Nat
  | .v4 _ => 32
  | .v6 _ _ => 128

def is4In6 : Addr → Bool
  | .v4 _ => false
  | .v6 bits _ => bits.toNat / 2 ^ 32 = 0xffff

def unmap : Addr → Addr
  | .v4 bits => .v4 bits
  | .v6 bits zone => if (Addr.v6 bits zone).is4In6 then .v4 (bits.setWidth 32) else .v6 bits zone

def withZone (addr : Addr) (zone : Bytes) : Addr := match addr with
  | .v4 bits => .v4 bits
  | .v6 bits _ => .v6 bits zone

@[simp]
theorem is4In6_withZone (addr : Addr) (zone : Bytes) : (addr.withZone zone).is4In6 = addr.is4In6 := by
  cases addr <;> rfl

@[simp]
theorem zone_withZone_nil (addr : Addr) : (addr.withZone []).zone = [] := by
  cases addr <;> rfl

theorem is4In6_unmap (addr : Addr) : addr.unmap.is4In6 = false := by
  cases addr with
  | v4 => rfl
  | v6 bits zone =>
    by_cases mapped : (Addr.v6 bits zone).is4In6
    · rw [unmap,if_pos mapped]
      rfl
    · rw [unmap,if_neg mapped]
      exact Bool.eq_false_iff.mpr mapped

end Addr

instance lengths_nonzero : NeZero (32 + 1) := inferInstance

inductive Prefix where
  | v4 (addr : BitVec 32) (bits : Fin 33)
  | v6 (addr : BitVec 128) (bits : Fin 129)
  deriving DecidableEq

def mask (width length : Nat) : BitVec width := BitVec.allOnes width <<< (width - length)

def agree {width : Nat} (length : Nat) (left right : BitVec width) : Bool := (left ^^^ right) &&& mask width length = 0

variable {width : Nat}

theorem agree_masked (length : Nat) (left right : BitVec width) :
    agree length left (right &&& mask width length) = agree length left right := by
  have same : (left ^^^ (right &&& mask width length)) &&& mask width length = (left ^^^ right) &&& mask width length := by
    apply BitVec.eq_of_getLsbD_eq
    intro i _
    simp only [BitVec.getLsbD_and,BitVec.getLsbD_xor]
    cases (mask width length).getLsbD i <;> simp
  rw [agree,agree,same]

theorem getLsbD_mask (width length i : Nat) : (mask width length).getLsbD i = decide (width - length ≤ i ∧ i < width) := by
  rw [mask]
  by_cases inside : i < width
  · by_cases high : width - length ≤ i
    · simp [inside,high,Nat.not_lt.mpr high]
    · simp [high,Nat.lt_of_not_le high]
  · simp [inside]

theorem agree_iff {length : Nat} {left right : BitVec width} :
    agree length left right ↔ left >>> (width - length) = right >>> (width - length) := by
  rw [agree,decide_eq_true_iff]
  constructor
  · intro none
    apply BitVec.eq_of_getLsbD_eq
    intro i _
    simp only [BitVec.getLsbD_ushiftRight]
    by_cases inside : width - length + i < width
    · have bit := congrArg (fun bits : BitVec width => bits.getLsbD (width - length + i)) none
      have masked : (mask width length).getLsbD (width - length + i) := by
        simp only [getLsbD_mask,Nat.le_add_right,inside,and_self,decide_true]
      simp only [BitVec.getLsbD_and,BitVec.getLsbD_xor,masked,Bool.and_true] at bit
      simpa using bit
    · rw [BitVec.getLsbD_of_ge _ _ (Nat.le_of_not_lt inside),BitVec.getLsbD_of_ge _ _ (Nat.le_of_not_lt inside)]
  · intro same
    apply BitVec.eq_of_getLsbD_eq
    intro i _
    simp only [BitVec.getLsbD_and,BitVec.getLsbD_xor,getLsbD_mask]
    by_cases high : width - length ≤ i
    · have bit := congrArg (fun bits : BitVec width => bits.getLsbD (i - (width - length))) same
      simp only [BitVec.getLsbD_ushiftRight,Nat.add_sub_cancel' high] at bit
      simp [bit]
    · simp [high]

theorem agree_full {left right : BitVec width} : agree width left right ↔ left = right := by
  rw [agree_iff,Nat.sub_self,BitVec.ushiftRight_zero,BitVec.ushiftRight_zero]

namespace Prefix

/-- A prefix of the address without its zone; none if the length is out of range. -/
def from? (addr : Addr) (bits : Int) : Option Prefix := match addr with
  | .v4 address => if low : 0 ≤ bits ∧ bits ≤ 32 then some (.v4 address ⟨bits.toNat,by omega⟩) else none
  | .v6 address _ => if low : 0 ≤ bits ∧ bits ≤ 128 then some (.v6 address ⟨bits.toNat,by omega⟩) else none

def addr : Prefix → Addr
  | .v4 addr _ => .v4 addr
  | .v6 addr _ => .v6 addr []

def bits : Prefix → Nat
  | .v4 _ bits => bits
  | .v6 _ bits => bits

def masked : Prefix → Prefix
  | .v4 addr bits => .v4 (addr &&& mask 32 bits) bits
  | .v6 addr bits => .v6 (addr &&& mask 128 bits) bits

def contains : Prefix → Addr → Bool
  | .v4 addr bits,.v4 other => agree bits other addr
  | .v6 addr bits,.v6 other zone => zone = [] && agree bits other addr
  | _,_ => false

@[simp]
theorem contains_masked (p : Prefix) (addr : Addr) : p.masked.contains addr = p.contains addr := by
  cases p with
  | v4 =>
    cases addr with
    | v4 => exact agree_masked ..
    | v6 => rfl
  | v6 _ bits =>
    cases addr with
    | v4 => rfl
    | v6 other zone =>
      change (zone = [] && agree bits other _) = (zone = [] && agree bits other _)
      rw [agree_masked]

theorem contains_full {addr other : Addr} (unzoned : addr.zone = []) :
    (from? addr addr.bitLen).any (·.contains other) ↔ other = addr := by
  cases addr with
  | v4 bits =>
    cases other with
    | v4 there =>
      change agree 32 there bits ↔ _
      rw [agree_full,Addr.v4.injEq]
    | v6 => exact ⟨nofun,nofun⟩
  | v6 bits zone =>
    subst unzoned
    cases other with
    | v4 => exact ⟨nofun,nofun⟩
    | v6 there zone =>
      change (decide (zone = []) && agree 128 there bits) ↔ _
      rw [Bool.and_eq_true,decide_eq_true_iff,agree_full,Addr.v6.injEq]
      exact and_comm

end Prefix

end P2pstream.Library.Addresses
