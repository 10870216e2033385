import Mathlib.Data.List.Induction
import P2pstream.Library.Addresses

/-! Addresses as text: the parser of dotted and colon notation, the canonical text and the
way back, and host and port joined by a colon.
-/
namespace P2pstream.Library.AddressText
open Library.Encoding (Bytes text)
open Library.Text Library.Addresses List Option

def dot : UInt8 := 0x2e
def colon : UInt8 := 0x3a
def percent : UInt8 := 0x25
def slash : UInt8 := 0x2f
def openBracket : UInt8 := 0x5b
def closeBracket : UInt8 := 0x5d

def ofPlaces (base : Nat) (places : List Nat) : Nat := places.foldl (fun value place => base * value + place) 0

def places (base : Nat) : Nat → Nat → List Nat
  | 0,_ => []
  | width + 1,number => places base width (number / base) ++ [number % base]

/-- The four fields from here on, given the digits of the field begun. -/
def ipv4Fields : Bytes → Nat → Nat → List Nat → Option (List Nat)
  | [],value,_,fields => if fields.length < 3 then none else some (fields ++ [value])
  | byte :: rest,value,digits,fields =>
    if isDigit byte then
      if digits = 1 ∧ value = 0 then none
      else
        let value := value * 10 + digitValue byte
        if 255 < value then none else ipv4Fields rest value (digits + 1) fields
    else if byte = dot then
      if digits = 0 ∨ rest = [] then none
      else if fields.length = 3 then none
      else ipv4Fields rest 0 0 (fields ++ [value])
    else none

def parseIPv4 (value : Bytes) : Option Addr :=
  (ipv4Fields value 0 0 []).map fun fields => .v4 (BitVec.ofNat 32 (ofPlaces 256 fields))

def hexDigit (byte : UInt8) : Option Nat := if 0x30 ≤ byte ∧ byte ≤ 0x39 then some (byte.toNat - 0x30)
  else if 0x61 ≤ byte ∧ byte ≤ 0x66 then some (byte.toNat - 0x61 + 10)
  else if 0x41 ≤ byte ∧ byte ≤ 0x46 then some (byte.toNat - 0x41 + 10)
  else none

/-- A hexadecimal group: its value, how many digits it has, and what follows. -/
def hexField : Bytes → Nat → Nat → Option (Nat × Nat × Bytes)
  | [],value,digits => some (value,digits,[])
  | byte :: rest,value,digits =>
    match hexDigit byte with
    | none => some (value,digits,byte :: rest)
    | some digit =>
      let value := value * 16 + digit
      if 3 < digits ∨ 65535 < value then none else hexField rest value (digits + 1)

/-- Groups followed by colons, up to sixteen bytes: the bytes, where the ellipsis stands,
and what is left. -/
def ipv6Fields : Nat → Bytes → List Nat → Option Nat → Option (List Nat × Option Nat × Bytes)
  | 0,value,bytes,ellipsis => some (bytes,ellipsis,value)
  | fuel + 1,value,bytes,ellipsis =>
    match hexField value 0 0 with
    | none => none
    | some (group,digits,rest) =>
      if digits = 0 then none
      else if rest.head? = some dot then
        if (ellipsis = none ∧ bytes.length ≠ 12) ∨ 16 < bytes.length + 4 then none
        else (ipv4Fields value 0 0 []).map fun fields => (bytes ++ fields,ellipsis,[])
      else
        let bytes := bytes ++ [group / 256,group % 256]
        match rest with
        | [] => some (bytes,ellipsis,[])
        | separator :: more =>
          if separator ≠ colon then none
          else match more with
            | [] => none
            | next :: later =>
              if next ≠ colon then ipv6Fields fuel more bytes ellipsis
              else if ellipsis.isSome then none
              else if later = [] then some (bytes,some bytes.length,[])
              else ipv6Fields fuel later bytes (some bytes.length)

def expand (bytes : List Nat) (ellipsis : Option Nat) : Option (List Nat) := match ellipsis with
  | none => if bytes.length < 16 then none else some bytes
  | some place =>
    if bytes.length < 16 then some (bytes.take place ++ replicate (16 - bytes.length) 0 ++ bytes.drop place) else none

def parseGroups (value : Bytes) : Option (List Nat) := let leading := [colon,colon].isPrefixOf value
  let rest := if leading then value.drop 2 else value
  if leading ∧ rest = [] then some (replicate 16 0)
  else match ipv6Fields 8 rest [] (if leading then some 0 else none) with
    | none => none
    | some (bytes,ellipsis,left) => if left ≠ [] then none else expand bytes ellipsis

def parseIPv6 (value : Bytes) : Option Addr := match cut percent value with
  | none => (parseGroups value).map fun bytes => .v6 (BitVec.ofNat 128 (ofPlaces 256 bytes)) []
  | some (address,zone) =>
    if zone = [] then none
    else (parseGroups address).map fun bytes => .v6 (BitVec.ofNat 128 (ofPlaces 256 bytes)) zone

def parseAddr (value : Bytes) : Option Addr := match value.find? fun byte => byte = dot ∨ byte = colon ∨ byte = percent with
  | none => none
  | some byte => if byte = dot then parseIPv4 value else if byte = colon then parseIPv6 value else none

def parsePrefix (value : Bytes) : Option Prefix := do
  let (address,length) ← cutLast slash value
  let addr ← parseAddr address
  guard (addr.zone = [])
  guard (length.length ≤ 1 ∨ length.head? ≠ some 0x30)
  let bits ← readDecimal length
  Prefix.from? addr bits

def splitAddrPort (value : Bytes) : Option (Bytes × Bytes × Bool) := do
  let (host,port) ← cutLast colon value
  guard (host ≠ [] ∧ port ≠ [])
  if host.head? = some openBracket then
    guard (2 ≤ host.length ∧ host.getLast? = some closeBracket)
    pure (host.tail.dropLast,port,true)
  else pure (host,port,false)

def parseAddrPort (value : Bytes) : Option Addr := do
  let (host,port,bracketed) ← splitAddrPort value
  let number ← readDecimal port
  guard (number ≤ 65535)
  let addr ← parseAddr host
  guard (addr.is6 = bracketed)
  pure addr

inductive HostPortError where
  | missingPort
  | tooManyColons
  | missingBracket
  | unexpectedOpenBracket
  | unexpectedCloseBracket
  deriving DecidableEq

/-- The host and the port after the last colon; only a bracketed host may hold colons. -/
def splitHostPort (value : Bytes) : Except HostPortError (Bytes × Bytes) := match cutLast colon value with
  | none => .error .missingPort
  | some (before,port) =>
    if value.head? = some openBracket then
      match cut closeBracket value with
      | none => .error .missingBracket
      | some (bracketed,after) =>
        if after = colon :: port then
          if openBracket ∈ value.tail then .error .unexpectedOpenBracket
          else if closeBracket ∈ after then .error .unexpectedCloseBracket
          else .ok (bracketed.tail,port)
        else if after.head? = some colon then .error .tooManyColons
        else .error .missingPort
    else if colon ∈ before then .error .tooManyColons
    else if openBracket ∈ value then .error .unexpectedOpenBracket
    else if closeBracket ∈ value then .error .unexpectedCloseBracket
    else .ok (before,port)

def joinHostPort (host port : Bytes) : Bytes :=
  if colon ∈ host then openBracket :: host ++ closeBracket :: colon :: port else host ++ colon :: port

def digit (value : Nat) : UInt8 := UInt8.ofNat (if value < 10 then 0x30 + value else 0x57 + value)

def octet (value : Nat) : Bytes :=
  (if 100 ≤ value then [digit (value / 100)] else []) ++ (if 10 ≤ value then [digit (value / 10 % 10)] else []) ++
    [digit (value % 10)]

def formatIPv4 (bits : BitVec 32) : Bytes := [dot].intercalate ((places 256 4 bits.toNat).map octet)

def hexGroup (value : Nat) : Bytes := (if 0x1000 ≤ value then [digit (value / 0x1000)] else []) ++
    (if 0x100 ≤ value then [digit (value / 0x100 % 0x10)] else []) ++
    (if 0x10 ≤ value then [digit (value / 0x10 % 0x10)] else []) ++ [digit (value % 0x10)]

def joinGroups : List Nat → Bytes
  | [] => []
  | [group] => hexGroup group
  | group :: rest => hexGroup group ++ colon :: joinGroups rest

def zeroRun (groups : List Nat) : Nat := (groups.takeWhile (· = 0)).length

/-- Where the first of the longest runs of two or more zero groups starts, and how long it is. -/
def longestRun (groups : List Nat) : Option (Nat × Nat) := (range 8).foldl (fun best start =>
    let length := zeroRun (groups.drop start)
    if 2 ≤ length ∧ (best.map Prod.snd).getD 0 < length then some (start,length) else best) none

def formatIPv6 (groups : List Nat) : Bytes := match longestRun groups with
  | none => joinGroups groups
  | some (start,length) =>
    joinGroups (groups.take start) ++ colon :: colon :: joinGroups (groups.drop (start + length))

def formatAddr : Addr → Bytes
  | .v4 bits => formatIPv4 bits
  | .v6 bits zone =>
    (if (Addr.v6 bits zone).is4In6 then text "::ffff:" ++ formatIPv4 (bits.setWidth 32)
      else formatIPv6 (places 65536 8 bits.toNat)) ++ if zone = [] then [] else percent :: zone

theorem ofPlaces_append (base : Nat) (left : List Nat) (place : Nat) :
    ofPlaces base (left ++ [place]) = base * ofPlaces base left + place := by
  simp [ofPlaces]

theorem ofPlaces_places {base : Nat} (width number : Nat) :
    ofPlaces base (places base width number) = number % base ^ width := by
  induction width generalizing number with
  | zero => simp [places,ofPlaces,Nat.mod_one]
  | succ _ ih =>
    rw [places,ofPlaces_append,ih,pow_succ',Nat.mod_mul]
    omega

theorem length_places (base width number : Nat) : (places base width number).length = width := by
  induction width generalizing number with
  | zero => rfl
  | succ _ ih => rw [places,length_append,ih,length_singleton]

theorem places_lt {base : Nat} (positive : 0 < base) (width number : Nat) : ∀ place ∈ places base width number, place < base := by
  induction width generalizing number with
  | zero => exact nofun
  | succ _ ih =>
    intro place mem
    rcases mem_append.mp mem with high | low
    · exact ih _ place high
    · rw [mem_singleton.mp low]
      exact Nat.mod_lt _ positive

def groupBytes (groups : List Nat) : List Nat := groups.flatMap fun group => [group / 256,group % 256]

theorem length_groupBytes (groups : List Nat) : (groupBytes groups).length = 2 * groups.length := by
  induction groups with
  | nil => rfl
  | cons _ _ ih =>
    rw [groupBytes,flatMap_cons,length_append,← groupBytes]
    simp only [length_cons,length_nil]
    omega

theorem groupBytes_append (left right : List Nat) : groupBytes (left ++ right) = groupBytes left ++ groupBytes right :=
  flatMap_append

theorem ofPlaces_groupBytes (groups : List Nat) : ofPlaces 256 (groupBytes groups) = ofPlaces 65536 groups := by
  induction groups using reverseRecOn with
  | nil => rfl
  | append_singleton front group ih =>
    have last : groupBytes (front ++ [group]) = (groupBytes front ++ [group / 256]) ++ [group % 256] := by
      simp [groupBytes]
    rw [last,ofPlaces_append,ofPlaces_append,ofPlaces_append]
    omega

variable {value group length : Nat} {rest : Bytes} {byte : UInt8} {groups : List Nat} {addr : Addr}

theorem isDigit_digit (small : value < 10) : isDigit (digit value) ∧ digitValue (digit value) = value := by
  revert value
  decide

theorem hexDigit_digit (small : value < 16) : hexDigit (digit value) = some value := by
  revert value
  decide

theorem ipv4Fields_digit (small : value < 10) (rest : Bytes) (sum count : Nat) (fields : List Nat)
    (leading : ¬ (count = 1 ∧ sum = 0)) (bound : sum * 10 + value ≤ 255) :
    ipv4Fields (digit value :: rest) sum count fields = ipv4Fields rest (sum * 10 + value) (count + 1) fields := by
  obtain ⟨is,reads⟩ := isDigit_digit small
  rw [ipv4Fields,if_pos is,if_neg leading,reads]
  exact if_neg (by omega)

theorem ipv4Fields_octet (byte : value < 256) (rest : Bytes) (fields : List Nat) :
    ∃ count, 0 < count ∧ ipv4Fields (octet value ++ rest) 0 0 fields = ipv4Fields rest value count fields := by
  unfold octet
  split_ifs with large middle
  all_goals try omega
  all_goals
    simp only [cons_append,nil_append]
    repeat rw [ipv4Fields_digit (by omega) _ _ _ _ (by omega) (by omega)]
    refine ⟨_,?_,congrArg (ipv4Fields rest · _ fields) ?_⟩ <;> omega

theorem ipv4Fields_dot {count : Nat} {fields : List Nat} (begun : 0 < count) (more : rest ≠ []) (room : fields.length < 3) :
    ipv4Fields (dot :: rest) value count fields = ipv4Fields rest 0 0 (fields ++ [value]) := by
  have other : isDigit dot = false := by decide
  have next : ¬ (count = 0 ∨ rest = []) := by
    rintro (_ | empty)
    · omega
    · exact more empty
  rw [ipv4Fields,other,if_neg (by simp),if_pos rfl,if_neg next,if_neg (by omega)]

theorem octet_ne_nil (value : Nat) : octet value ≠ [] := by
  simp [octet]

theorem formatIPv4_octets (bits : BitVec 32) :
    ∃ a b c d, places 256 4 bits.toNat = [a,b,c,d] ∧ (a < 256 ∧ b < 256 ∧ c < 256 ∧ d < 256) ∧
      formatIPv4 bits = octet a ++ dot :: (octet b ++ dot :: (octet c ++ dot :: octet d)) := by
  have shape : ∃ a b c d, places 256 4 bits.toNat = [a,b,c,d] := ⟨_,_,_,_,rfl⟩
  obtain ⟨a,b,c,d,shape⟩ := shape
  have small := places_lt (show 0 < 256 by omega) 4 bits.toNat
  rw [shape] at small
  simp only [mem_cons,not_mem_nil,or_false,forall_eq_or_imp,forall_eq] at small
  exact ⟨a,b,c,d,shape,small,by simp [formatIPv4,shape,intercalate]⟩

theorem parseIPv4_formatIPv4 (bits : BitVec 32) : parseIPv4 (formatIPv4 bits) = some (.v4 bits) := by
  obtain ⟨a,b,c,d,shape,⟨ha,hb,hc,hd⟩,written⟩ := formatIPv4_octets bits
  have read : ipv4Fields (formatIPv4 bits) 0 0 [] = some [a,b,c,d] := by
    rw [written]
    obtain ⟨_,begun,read⟩ := ipv4Fields_octet ha (dot :: (octet b ++ dot :: (octet c ++ dot :: octet d))) []
    rw [read,ipv4Fields_dot begun (by simp [octet_ne_nil]) (by simp)]
    obtain ⟨_,begun,read⟩ := ipv4Fields_octet hb (dot :: (octet c ++ dot :: octet d)) [a]
    rw [nil_append,read,ipv4Fields_dot begun (by simp [octet_ne_nil]) (by simp)]
    obtain ⟨_,begun,read⟩ := ipv4Fields_octet hc (dot :: octet d) [a,b]
    rw [cons_append,nil_append,read,ipv4Fields_dot begun (octet_ne_nil d) (by simp)]
    obtain ⟨_,_,read⟩ := ipv4Fields_octet hd [] [a,b,c]
    rw [append_nil] at read
    simp only [cons_append,nil_append]
    rw [read]
    rfl
  have number : ofPlaces 256 [a,b,c,d] = bits.toNat := by
    rw [← shape,ofPlaces_places]
    exact Nat.mod_eq_of_lt bits.isLt
  rw [parseIPv4,read,map_some,number,BitVec.ofNat_toNat,BitVec.setWidth_eq]

theorem hexField_digit (small : value < 16) (rest : Bytes) (sum count : Nat) (few : count ≤ 3)
    (bound : sum * 16 + value ≤ 65535) :
    hexField (digit value :: rest) sum count = hexField rest (sum * 16 + value) (count + 1) := by
  rw [hexField,hexDigit_digit small]
  exact if_neg (by omega)

theorem hexField_end (ends : ∀ byte, rest.head? = some byte → hexDigit byte = none) (sum count : Nat) :
    hexField rest sum count = some (sum,count,rest) := by
  cases rest with
  | nil => rfl
  | cons byte => rw [hexField,ends byte rfl]

theorem hexField_hexGroup (group : value < 65536) (ends : ∀ byte, rest.head? = some byte → hexDigit byte = none) :
    ∃ count, 0 < count ∧ hexField (hexGroup value ++ rest) 0 0 = some (value,count,rest) := by
  unfold hexGroup
  split_ifs with four three two
  all_goals try omega
  all_goals
    simp only [cons_append,nil_append]
    repeat rw [hexField_digit (by omega) _ _ _ (by omega) (by omega)]
    rw [hexField_end ends]
    refine ⟨_,?_,congrArg (fun sum => some (sum,_,rest)) ?_⟩ <;> omega

theorem digit_ne (small : value < 16) :
    digit value ≠ colon ∧ digit value ≠ dot ∧ digit value ≠ percent ∧ digit value ≠ openBracket ∧
      digit value ≠ closeBracket := by
  revert value
  decide

theorem mem_hexGroup (group : value < 65536) (mem : byte ∈ hexGroup value) : ∃ place < 16, byte = digit place := by
  simp only [hexGroup,mem_append,mem_ite_nil_right,mem_singleton] at mem
  rcases mem with ((⟨_,rfl⟩ | ⟨_,rfl⟩) | ⟨_,rfl⟩) | rfl
  all_goals exact ⟨_,by omega,rfl⟩

theorem hexGroup_cons (group : value < 65536) (rest : Bytes) :
    ∃ place later, place < 16 ∧ hexGroup value ++ rest = digit place :: later := by
  cases shape : hexGroup value with
  | nil => simp [hexGroup] at shape
  | cons _ later =>
    obtain ⟨place,small,rfl⟩ := mem_hexGroup group (shape ▸ mem_cons_self)
    exact ⟨place,later ++ rest,small,rfl⟩

def Groups (groups : List Nat) : Prop := ∀ group ∈ groups, group < 65536

theorem joinGroups_cons {rest : List Nat} (more : rest ≠ []) :
    joinGroups (group :: rest) = hexGroup group ++ colon :: joinGroups rest := by
  cases rest with
  | nil => exact (more rfl).elim
  | cons => rfl

theorem joinGroups_head (bounded : Groups groups) (some : groups ≠ []) (rest : Bytes) :
    ∃ place later, place < 16 ∧ joinGroups groups ++ rest = digit place :: later := by
  cases groups with
  | nil => exact (some rfl).elim
  | cons group groups =>
    have small := bounded group mem_cons_self
    by_cases last : groups = []
    · subst last
      exact hexGroup_cons small rest
    · rw [joinGroups_cons last,append_assoc]
      exact hexGroup_cons small _

private theorem colon_ends (rest : Bytes) : ∀ byte, (colon :: rest).head? = some byte → hexDigit byte = none := by
  intro _ head
  cases head
  decide

theorem ipv6Fields_group (small : group < 65536) (fuel : Nat) (bytes : List Nat) (ellipsis : Option Nat) :
    ipv6Fields (fuel + 1) (hexGroup group) bytes ellipsis = some (bytes ++ [group / 256,group % 256],ellipsis,[]) := by
  obtain ⟨_,_,read⟩ := hexField_hexGroup small (nofun : ∀ byte, ([] : Bytes).head? = some byte → hexDigit byte = none)
  rw [append_nil] at read
  simp only [ipv6Fields,read]
  rw [if_neg (by omega)]
  rfl

theorem ipv6Fields_colon {place : Nat} {later : Bytes} (small : group < 65536) (digits : place < 16) (fuel : Nat)
    (bytes : List Nat) (ellipsis : Option Nat) :
    ipv6Fields (fuel + 1) (hexGroup group ++ colon :: digit place :: later) bytes ellipsis =
      ipv6Fields fuel (digit place :: later) (bytes ++ [group / 256,group % 256]) ellipsis := by
  obtain ⟨_,_,read⟩ := hexField_hexGroup small (colon_ends (digit place :: later))
  simp only [ipv6Fields,read]
  rw [if_neg (by omega),if_neg (by simp [colon,dot]),if_neg (by simp),if_pos (digit_ne digits).1]

theorem ipv6Fields_ellipsis (small : group < 65536) (later : Bytes) (fuel : Nat) (bytes : List Nat) :
    ipv6Fields (fuel + 1) (hexGroup group ++ colon :: colon :: later) bytes none =
      if later = [] then some (bytes ++ [group / 256,group % 256],some (bytes.length + 2),[])
      else ipv6Fields fuel later (bytes ++ [group / 256,group % 256]) (some (bytes.length + 2)) := by
  obtain ⟨_,_,read⟩ := hexField_hexGroup small (colon_ends (colon :: later))
  simp only [ipv6Fields,read]
  rw [if_neg (by omega),if_neg (by simp [colon,dot])]
  simp

theorem ipv6Fields_joinGroups (bounded : Groups groups) (some : groups ≠ []) {fuel : Nat}
    (enough : groups.length ≤ fuel) (bytes : List Nat) (ellipsis : Option Nat) :
    ipv6Fields fuel (joinGroups groups) bytes ellipsis = .some (bytes ++ groupBytes groups,ellipsis,[]) := by
  induction groups generalizing fuel bytes with
  | nil => exact (some rfl).elim
  | cons group groups ih =>
    have small := bounded group mem_cons_self
    obtain ⟨fuel,rfl⟩ : ∃ less, fuel = less + 1 := ⟨fuel - 1,by simp at enough; omega⟩
    by_cases last : groups = []
    · subst last
      exact ipv6Fields_group small fuel bytes ellipsis
    · have rest : Groups groups := fun other mem => bounded other (mem_cons_of_mem _ mem)
      obtain ⟨_,_,digits,head⟩ := joinGroups_head rest last []
      rw [append_nil] at head
      rw [joinGroups_cons last,head,ipv6Fields_colon small digits,← head,ih rest last (Nat.le_of_succ_le_succ enough)]
      simp [groupBytes]

theorem ipv6Fields_front (bounded : Groups groups) (some : groups ≠ []) {fuel : Nat} (enough : groups.length ≤ fuel)
    (bytes : List Nat) (later : Bytes) :
    ipv6Fields fuel (joinGroups groups ++ colon :: colon :: later) bytes none =
      if later = [] then .some (bytes ++ groupBytes groups,.some (bytes.length + 2 * groups.length),[])
      else ipv6Fields (fuel - groups.length) later (bytes ++ groupBytes groups) (.some (bytes.length + 2 * groups.length)) := by
  induction groups generalizing fuel bytes with
  | nil => exact (some rfl).elim
  | cons group groups ih =>
    have small := bounded group mem_cons_self
    obtain ⟨fuel,rfl⟩ : ∃ less, fuel = less + 1 := ⟨fuel - 1,by simp at enough; omega⟩
    by_cases last : groups = []
    · subst last
      rw [joinGroups,ipv6Fields_ellipsis small]
      rfl
    · have rest : Groups groups := fun other mem => bounded other (mem_cons_of_mem _ mem)
      obtain ⟨_,_,digits,head⟩ := joinGroups_head rest last (colon :: colon :: later)
      have size : (bytes ++ [group / 256,group % 256]).length + 2 * groups.length = bytes.length + 2 * (groups.length + 1) := by
        simp
        omega
      rw [joinGroups_cons last,append_assoc,cons_append,head,ipv6Fields_colon small digits,← head,
        ih rest last (Nat.le_of_succ_le_succ enough),size]
      simp [groupBytes]

theorem take_zeroRun (groups : List Nat) : groups.take (zeroRun groups) = replicate (zeroRun groups) 0 := by
  have taken : groups.take (zeroRun groups) = groups.takeWhile (· = 0) := (prefix_iff_eq_take.mp (List.takeWhile_prefix _)).symm
  rw [taken,eq_replicate_iff]
  refine ⟨rfl,fun group mem => ?_⟩
  have zero := mem_takeWhile_imp mem
  exact of_decide_eq_true zero

theorem longestRun_spec {start : Nat} (found : longestRun groups = some (start,length)) :
    2 ≤ length ∧ length = zeroRun (groups.drop start) := by
  let Fits (best : Option (Nat × Nat)) : Prop :=
    ∀ start length, best = some (start,length) → 2 ≤ length ∧ length = zeroRun (groups.drop start)
  -- Every candidate that the fold takes is a run of zeros.
  have fold (starts : List Nat) (best : Option (Nat × Nat)) (fits : Fits best) :
      Fits (starts.foldl (fun best start =>
        let length := zeroRun (groups.drop start)
        if 2 ≤ length ∧ (best.map Prod.snd).getD 0 < length then some (start,length) else best) best) := by
    induction starts generalizing best with
    | nil => exact fits
    | cons _ _ ih =>
      apply ih
      intro start length chosen
      dsimp only at chosen
      split at chosen
      · rename_i long
        cases chosen
        exact ⟨long.1,rfl⟩
      · exact fits start length chosen
  exact fold (range 8) none nofun start length found

theorem longestRun_split {start : Nat} (found : longestRun groups = some (start,length)) :
    2 ≤ length ∧ groups = groups.take start ++ (replicate length 0 ++ groups.drop (start + length)) := by
  obtain ⟨long,run⟩ := longestRun_spec found
  have zeros : (groups.drop start).take length = replicate length 0 := by
    rw [run]
    exact take_zeroRun _
  refine ⟨long,?_⟩
  rw [← zeros,← drop_drop,take_append_drop,take_append_drop]

theorem groupBytes_zeros (count : Nat) : groupBytes (replicate count 0) = replicate (2 * count) 0 := by
  induction count with
  | zero => rfl
  | succ _ ih =>
    rw [replicate_succ,groupBytes,flatMap_cons,← groupBytes,ih]
    rfl

theorem joinGroups_unled (bounded : Groups groups) (some : groups ≠ []) (rest : Bytes) :
    [colon,colon].isPrefixOf (joinGroups groups ++ rest) = false := by
  obtain ⟨_,_,small,head⟩ := joinGroups_head bounded some rest
  rw [head]
  simp [isPrefixOf,Ne.symm (digit_ne small).1]

theorem joinGroups_ne_nil (bounded : Groups groups) (some : groups ≠ []) : joinGroups groups ≠ [] := by
  obtain ⟨_,_,_,head⟩ := joinGroups_head bounded some []
  rw [append_nil] at head
  simp [head]

theorem expand_groupBytes {front back : List Nat} (long : 0 < length) (total : front.length + (length + back.length) = 8) :
    expand (groupBytes front ++ groupBytes back) (some (2 * front.length)) =
      some (groupBytes front ++ (replicate (2 * length) 0 ++ groupBytes back)) := by
  have size : (groupBytes front ++ groupBytes back).length = 2 * front.length + 2 * back.length := by
    simp only [length_append,length_groupBytes]
  have missing : 16 - (2 * front.length + 2 * back.length) = 2 * length := by omega
  rw [expand,size,if_pos (by omega),missing,← length_groupBytes,take_left,drop_left,append_assoc]

theorem parseGroups_ellipsis {front back : List Nat} (inFront : Groups front) (inBack : Groups back) (long : 0 < length)
    (total : front.length + (length + back.length) = 8) :
    parseGroups (joinGroups front ++ colon :: colon :: joinGroups back) =
      some (groupBytes front ++ (replicate (2 * length) 0 ++ groupBytes back)) := by
  have expanded := expand_groupBytes long total
  cases front with
  | nil =>
    by_cases none : back = []
    · subst none
      have all : length = 8 := by simpa using total
      subst all
      rfl
    · have read := ipv6Fields_joinGroups inBack none (show back.length ≤ 8 by omega) [] (some 0)
      simp only [parseGroups,joinGroups,nil_append,isPrefixOf,BEq.rfl,Bool.and_self,if_true,drop_succ_cons,
        drop_zero,joinGroups_ne_nil inBack none,and_false,if_false,read,not_true_eq_false,ne_eq]
      exact expanded
  | cons group front =>
    have led := joinGroups_unled inFront (by simp) (colon :: colon :: joinGroups back)
    have read := ipv6Fields_front inFront (by simp) (show (group :: front).length ≤ 8 by omega) [] (joinGroups back)
    simp only [nil_append,length_nil,Nat.zero_add] at read
    by_cases none : back = []
    · subst none
      rw [if_pos (show joinGroups [] = [] from rfl)] at read
      simp only [parseGroups,led,Bool.false_eq_true,false_and,if_false,read,ne_eq,not_true_eq_false]
      rw [← expanded,show groupBytes [] = [] from rfl,append_nil]
    · have last := ipv6Fields_joinGroups inBack none (show back.length ≤ 8 - (group :: front).length by omega)
        (groupBytes (group :: front)) (some (2 * (group :: front).length))
      simp only [parseGroups,led,Bool.false_eq_true,false_and,if_false,read,joinGroups_ne_nil inBack none,last,ne_eq,
        not_true_eq_false]
      exact expanded

theorem parseGroups_formatIPv6 (bounded : Groups groups) (eight : groups.length = 8) :
    parseGroups (formatIPv6 groups) = some (groupBytes groups) := by
  unfold formatIPv6
  cases found : longestRun groups with
  | none =>
    have some : groups ≠ [] := by
      intro empty
      rw [empty] at eight
      cases eight
    have read := ipv6Fields_joinGroups bounded some (show groups.length ≤ 8 by omega) [] none
    have led := joinGroups_unled bounded some []
    rw [append_nil] at led
    simp only [parseGroups,led,Bool.false_eq_true,false_and,if_false,read]
    simp [expand,length_groupBytes,eight]
  | some run =>
    obtain ⟨start,length⟩ := run
    obtain ⟨_,split⟩ := longestRun_split found
    have total : (groups.take start).length + (length + (groups.drop (start + length)).length) = 8 := by
      have sizes := congrArg List.length split
      rw [length_append,length_append,length_replicate] at sizes
      omega
    have read := parseGroups_ellipsis (fun group mem => bounded group (mem_of_mem_take mem))
      (fun group mem => bounded group (mem_of_mem_drop mem)) (show 0 < length by omega) total
    rw [← groupBytes_zeros,← groupBytes_append,← groupBytes_append,← split] at read
    exact read

theorem mem_joinGroups (bounded : Groups groups) (mem : byte ∈ joinGroups groups) :
    byte = colon ∨ ∃ place < 16, byte = digit place := by
  induction groups with
  | nil => exact nomatch mem
  | cons group groups ih =>
    have small := bounded group mem_cons_self
    by_cases last : groups = []
    · subst last
      exact .inr (mem_hexGroup small mem)
    · rw [joinGroups_cons last] at mem
      simp only [mem_append,mem_cons] at mem
      rcases mem with here | rfl | later
      · exact .inr (mem_hexGroup small here)
      · exact .inl rfl
      · exact ih (fun other inside => bounded other (mem_cons_of_mem _ inside)) later

theorem mem_formatIPv6 (bounded : Groups groups) (mem : byte ∈ formatIPv6 groups) :
    byte = colon ∨ ∃ place < 16, byte = digit place := by
  unfold formatIPv6 at mem
  split at mem
  · exact mem_joinGroups bounded mem
  · simp only [mem_append,mem_cons] at mem
    rcases mem with front | rfl | rfl | back
    · exact mem_joinGroups (fun group inside => bounded group (mem_of_mem_take inside)) front
    · exact .inl rfl
    · exact .inl rfl
    · exact mem_joinGroups (fun group inside => bounded group (mem_of_mem_drop inside)) back

theorem colon_mem_formatIPv6 (eight : groups.length = 8) : colon ∈ formatIPv6 groups := by
  unfold formatIPv6
  split
  · match groups,eight with
    | first :: second :: rest,_ =>
      rw [joinGroups_cons (by simp)]
      simp
  · simp

theorem mem_octet (byte : value < 256) {letter : UInt8} (mem : letter ∈ octet value) :
    ∃ place < 16, letter = digit place := by
  simp only [octet,mem_append,mem_ite_nil_right,mem_singleton] at mem
  rcases mem with (⟨_,rfl⟩ | ⟨_,rfl⟩) | rfl
  all_goals exact ⟨_,by omega,rfl⟩

theorem mem_formatIPv4 {bits : BitVec 32} {letter : UInt8} (mem : letter ∈ formatIPv4 bits) :
    letter = dot ∨ ∃ place < 16, letter = digit place := by
  obtain ⟨_,_,_,_,_,⟨ha,hb,hc,hd⟩,written⟩ := formatIPv4_octets bits
  simp only [written,mem_append,mem_cons] at mem
  rcases mem with first | rfl | second | rfl | third | rfl | fourth
  · exact .inr (mem_octet ha first)
  · exact .inl rfl
  · exact .inr (mem_octet hb second)
  · exact .inl rfl
  · exact .inr (mem_octet hc third)
  · exact .inl rfl
  · exact .inr (mem_octet hd fourth)

theorem dot_mem_formatIPv4 (bits : BitVec 32) : dot ∈ formatIPv4 bits := by
  obtain ⟨_,_,_,_,_,_,written⟩ := formatIPv4_octets bits
  simp [written]

theorem find_notation {value : Bytes} {separator : UInt8} (special : separator = dot ∨ separator = colon)
    (present : separator ∈ value) (letters : ∀ byte ∈ value, byte = separator ∨ ∃ place < 16, byte = digit place) :
    value.find? (fun byte => byte = dot ∨ byte = colon ∨ byte = percent) = some separator := by
  cases found : value.find? fun byte => byte = dot ∨ byte = colon ∨ byte = percent with
  | none =>
    have absent := find?_eq_none.mp found separator present
    simp only [decide_eq_true_eq,not_or] at absent
    exact (special.elim absent.1 absent.2.1).elim
  | some byte =>
    have chosen := find?_some found
    simp only [decide_eq_true_eq] at chosen
    rcases letters byte (mem_of_find?_eq_some found) with rfl | ⟨_,small,rfl⟩
    · rfl
    · have ordinary := digit_ne small
      rcases chosen with same | same | same
      · exact (ordinary.2.1 same).elim
      · exact (ordinary.1 same).elim
      · exact (ordinary.2.2.1 same).elim

theorem parseAddr_formatAddr (plain : addr.is4In6 = false) (unzoned : addr.zone = []) :
    parseAddr (formatAddr addr) = some addr := by
  cases addr with
  | v4 bits =>
    have first := find_notation (.inl rfl) (dot_mem_formatIPv4 bits) fun _ mem => mem_formatIPv4 mem
    rw [formatAddr,parseAddr,first]
    exact (if_pos rfl).trans (parseIPv4_formatIPv4 bits)
  | v6 bits zone =>
    subst unzoned
    have bounded : Groups (places 65536 8 bits.toNat) := places_lt (by omega) 8 bits.toNat
    have eight := length_places 65536 8 bits.toNat
    have written : formatAddr (.v6 bits []) = formatIPv6 (places 65536 8 bits.toNat) := by
      rw [formatAddr,plain,if_neg (by simp),if_pos rfl,append_nil]
    have first := find_notation (.inr rfl) (colon_mem_formatIPv6 eight) fun _ mem => mem_formatIPv6 bounded mem
    have unzoned : cut percent (formatIPv6 (places 65536 8 bits.toNat)) = none := by
      apply if_neg
      intro mem
      rcases mem_formatIPv6 bounded mem with impossible | ⟨_,small,same⟩
      · cases impossible
      · exact (digit_ne small).2.2.1 same.symm
    have number : ofPlaces 256 (groupBytes (places 65536 8 bits.toNat)) = bits.toNat := by
      rw [ofPlaces_groupBytes,ofPlaces_places]
      exact Nat.mod_eq_of_lt bits.isLt
    rw [written,parseAddr,first]
    dsimp only
    rw [if_neg (by decide),if_pos rfl,parseIPv6,unzoned]
    rw [parseGroups_formatIPv6 bounded eight,map_some,number,BitVec.ofNat_toNat,BitVec.setWidth_eq]

theorem mem_formatAddr (unzoned : addr.zone = []) (mem : byte ∈ formatAddr addr) :
    byte = dot ∨ byte = colon ∨ ∃ place < 16, byte = digit place := by
  have dotted {bits : BitVec 32} (mem : byte ∈ formatIPv4 bits) : byte = dot ∨ byte = colon ∨ ∃ place < 16, byte = digit place :=
    (mem_formatIPv4 mem).imp_right .inr
  cases addr with
  | v4 => exact dotted mem
  | v6 bits zone =>
    subst unzoned
    rw [formatAddr,if_pos rfl,append_nil] at mem
    split at mem
    · rcases mem_append.mp mem with mapped | low
      · have letters : ∀ letter ∈ text "::ffff:", letter = colon ∨ letter = digit 15 := by decide +kernel
        exact .inr ((letters byte mapped).imp_right fun same => ⟨15,by omega,same⟩)
      · exact dotted low
    · exact .inr (mem_formatIPv6 (places_lt (by omega) 8 bits.toNat) mem)

theorem getLast_formatIPv4 (front : Bytes) (bits : BitVec 32) : (front ++ formatIPv4 bits).getLast? ≠ some dot := by
  obtain ⟨_,_,_,d,_,⟨_,_,_,_⟩,written⟩ := formatIPv4_octets bits
  have last : (front ++ formatIPv4 bits).getLast? = some (digit (d % 10)) := by simp [written,octet,getLast?_append,getLast?_cons]
  rw [last]
  exact fun same => (digit_ne (by omega)).2.1 (some.inj same)

theorem getLast_formatAddr (unzoned : addr.zone = []) : (formatAddr addr).getLast? ≠ some dot := by
  cases addr with
  | v4 bits => exact getLast_formatIPv4 [] bits
  | v6 bits zone =>
    subst unzoned
    rw [formatAddr,if_pos rfl,append_nil]
    split
    · exact getLast_formatIPv4 _ _
    · intro last
      rcases mem_formatIPv6 (places_lt (by omega) 8 bits.toNat) (mem_of_getLast? last) with impossible | ⟨_,small,same⟩
      · cases impossible
      · exact (digit_ne small).2.1 same.symm

theorem formatAddr_letters (unzoned : addr.zone = []) :
    Plain (formatAddr addr) ∧ openBracket ∉ formatAddr addr ∧ closeBracket ∉ formatAddr addr ∧ slash ∉ formatAddr addr := by
  have letters : ∀ byte ∈ formatAddr addr, (0x21 ≤ byte ∧ byte < 0x7f) ∧ byte ≠ openBracket ∧ byte ≠ closeBracket ∧
      byte ≠ slash := by
    have digits : ∀ place < 16, (0x21 ≤ digit place ∧ digit place < 0x7f) ∧ digit place ≠ openBracket ∧
        digit place ≠ closeBracket ∧ digit place ≠ slash := by decide
    intro byte mem
    rcases mem_formatAddr unzoned mem with rfl | rfl | ⟨place,small,rfl⟩
    · decide
    · decide
    · exact digits place small
  exact ⟨fun byte mem => (letters byte mem).1,fun mem => (letters _ mem).2.1 rfl,
    fun mem => (letters _ mem).2.2.1 rfl,fun mem => (letters _ mem).2.2.2 rfl⟩

theorem splitHostPort_joinHostPort {host port : Bytes} (opens : openBracket ∉ host) (closes : closeBracket ∉ host)
    (digits : ∀ byte ∈ port, 0x30 ≤ byte ∧ byte ≤ 0x39) : splitHostPort (joinHostPort host port) = .ok (host,port) := by
  have without {byte : UInt8} (other : ¬ (0x30 ≤ byte ∧ byte ≤ 0x39)) : byte ∉ port := fun mem => other (digits byte mem)
  have colonless : colon ∉ port := without (by decide)
  have openless : openBracket ∉ port := without (by decide)
  have closeless : closeBracket ∉ port := without (by decide)
  unfold joinHostPort
  by_cases bracketed : colon ∈ host
  · have shape : openBracket :: host ++ closeBracket :: colon :: port =
        (openBracket :: host ++ [closeBracket]) ++ colon :: port := by simp
    have front : closeBracket ∉ openBracket :: host := by
      simp only [mem_cons,closes,or_false]
      decide
    have after := cut_append (colon :: port) front
    have before : cutLast colon (openBracket :: host ++ closeBracket :: colon :: port) =
        some (openBracket :: host ++ [closeBracket],port) := by
      rw [shape]
      exact cutLast_append _ colonless
    have tail : openBracket ∉ (openBracket :: host ++ closeBracket :: colon :: port).tail := by
      simp only [cons_append,tail_cons,mem_append,mem_cons,opens,openless,or_false,false_or]
      decide
    have rest : closeBracket ∉ colon :: port := by
      simp only [mem_cons,closeless,or_false]
      decide
    rw [if_pos bracketed,splitHostPort,before]
    dsimp only
    rw [after]
    dsimp only
    rw [if_pos rfl,if_neg tail,if_neg rest]
    rfl
  · have before := cutLast_append host colonless
    have unbracketed : (host ++ colon :: port).head? ≠ some openBracket := by
      cases host with
      | nil => simp [colon,openBracket]
      | cons =>
        intro head
        exact opens (some.inj head ▸ mem_cons_self)
    have clear : openBracket ∉ host ++ colon :: port ∧ closeBracket ∉ host ++ colon :: port := by
      simp only [mem_append,mem_cons,opens,closes,openless,closeless,or_false,false_or]
      decide
    rw [if_neg bracketed,splitHostPort,before]
    dsimp only
    rw [if_neg unbracketed,if_neg bracketed,if_neg clear.1,if_neg clear.2]

end P2pstream.Library.AddressText
