import P2pstream.Kernel.RateLimitKeys
import Mathlib.Algebra.Order.BigOperators.Group.List

/-! When a rate limit key names one tuple of values. Each value ends with a zero byte. Query values
are decoded and may hold one themselves, the others do not: with one query parameter in the rule
the zero bytes of a key text belong to it, with two they may belong to either.
-/
namespace P2pstream.RateLimitKeys
open Kernel.RateLimitKeys List
open Kernel.PublicSites (normalizeRequestHost)
open Library.Encoding (Bytes text)

variable {κ : Type} {p : Primitives κ} {parts listed : List KeyPart} {r r' : Request}

/-- What reaches the rate limit stage: addresses and header values without zero bytes, and a
path in which `rejectGloballyInvalidPublicPathStage` found none. -/
structure Received (p : Primitives κ) (r : Request) : Prop where
  remote : 0 ∉ remoteIPForRateLimit r
  host : 0 ∉ normalizeRequestHost p.lexicon r.host
  method : 0 ∉ p.toUpper r.method
  path : 0 ∉ r.path
  protocol : 0 ∉ r.protocol
  header : ∀ name, 0 ∉ r.header name
  cookie : ∀ name value, r.cookie name = some value → 0 ∉ value

def Separates (p : Primitives κ) (parts : List KeyPart) : Prop :=
  ∀ r r', Received p r → Received p r' →
    rateLimitKeyHash p (keyValues p parts r) = rateLimitKeyHash p (keyValues p parts r') →
      keyValues p parts r = keyValues p parts r'

/-- The rule names at most one query parameter. -/
def OneQuery (parts : List KeyPart) : Prop :=
  ∀ first ∈ keyParts parts, ∀ second ∈ keyParts parts, first.source = .queryParam → second.source = .queryParam → first = second

def keyText (p : Primitives κ) (r : Request) (listed : List KeyPart) : Bytes :=
  listed.flatMap fun part => keyLabel p part ++ [0] ++ (keyValue p r part ++ [0])

/-- The rule lists no part twice, and the text of some key fits into a value. -/
structure Roomy (p : Primitives κ) (parts : List KeyPart) : Prop where
  distinct : (keyParts parts).Nodup
  room : ∃ base, Received p base ∧ (keyText p base (keyParts parts)).length + 2 ≤ maxRateLimitKeyValueBytes

theorem Received.clear (received : Received p r) {part : KeyPart} (other : part.source ≠ .queryParam) :
    0 ∉ keyValue p r part := by
  have missing : 0 ∉ rateLimitMissingValue := by decide +kernel
  have bounded {value : Bytes} (clear : 0 ∉ value) :
      0 ∉ (if value = [] then rateLimitMissingValue else value).take maxRateLimitKeyValueBytes := by
    intro mem
    have inside := mem_of_mem_take mem
    split at inside
    · exact missing inside
    · exact clear inside
  obtain ⟨source,name⟩ := part
  cases source with
  | remoteIP => exact bounded received.remote
  | host => exact bounded received.host
  | method => exact bounded received.method
  | path => exact bounded received.path
  | protocol => exact bounded received.protocol
  | header => exact bounded (received.header name)
  | cookie =>
    apply bounded
    cases sent : r.cookie name with
    | none => exact missing
    | some value => exact received.cookie name value sent
  | queryParam => exact absurd rfl other

theorem keyText_cons {part : KeyPart} : keyText p r (part :: listed) =
    keyLabel p part ++ [0] ++ (keyValue p r part ++ [0] ++ keyText p r listed) := by
  simp [keyText]

theorem keyText_append {front : List KeyPart} : keyText p r (front ++ listed) = keyText p r front ++ keyText p r listed :=
  flatMap_append

theorem hash_eq : rateLimitKeyHash p (keyValues p parts r) = p.hash (keyText p r (keyParts parts)) := by
  simp [rateLimitKeyHash,keyValues,keyText,flatMap_assoc]

theorem values_eq : keyValues p parts r = keyValues p parts r' ↔
    ∀ part ∈ keyParts parts, keyValue p r part = keyValue p r' part := by
  unfold keyValues
  generalize keyParts parts = listed
  induction listed <;> simp_all

theorem terminated_inj {left right rest others : Bytes} (zeros : left.count 0 = right.count 0)
    (same : left ++ [0] ++ rest = right ++ [0] ++ others) : left = right ∧ rest = others := by
  rw [append_assoc,append_assoc] at same
  -- The longer value would go on with the zero byte that ends the shorter one.
  have shorter {left right rest others extra : Bytes} (zeros : left.count 0 = right.count 0)
      (longer : right = left ++ extra) (tail : [0] ++ rest = extra ++ ([0] ++ others)) : extra = [] := by
    cases extra with
    | nil => rfl
    | cons =>
      obtain ⟨rfl,_⟩ := cons.inj tail
      rw [longer,count_append,count_cons_self] at zeros
      omega
  rcases append_eq_append_iff.mp same with ⟨extra,longer,tail⟩ | ⟨_,longer,tail⟩
  · obtain rfl := shorter zeros longer tail
    simp_all
  · obtain rfl := shorter zeros.symm longer tail
    simp_all

theorem text_inj_of_zeros (zeros : ∀ part ∈ listed, (keyValue p r part).count 0 = (keyValue p r' part).count 0)
    (same : keyText p r listed = keyText p r' listed) : ∀ part ∈ listed, keyValue p r part = keyValue p r' part := by
  induction listed with
  | nil => exact nofun
  | cons part _ ih =>
    rw [keyText_cons,keyText_cons] at same
    obtain ⟨_,same⟩ := terminated_inj rfl same
    obtain ⟨value,same⟩ := terminated_inj (zeros part (.head _)) same
    exact forall_mem_cons.mpr ⟨value,ih (fun other mem => zeros other (.tail _ mem)) same⟩

theorem zeros_text : (keyText p r listed).count 0 =
    (listed.map fun part => (keyLabel p part).count 0 + 2).sum + (listed.map fun part => (keyValue p r part).count 0).sum := by
  induction listed with
  | nil => rfl
  | cons part rest ih =>
    simp only [keyText_cons,count_append,count_singleton_self,map_cons,sum_cons,ih]
    omega

section

variable (one : ∀ first ∈ listed, ∀ second ∈ listed, first.source = .queryParam → second.source = .queryParam → first = second)
  (received : Received p r) (received' : Received p r') (same : keyText p r listed = keyText p r' listed)
include one received received' same

theorem zeros_le : ∀ part ∈ listed, (keyValue p r part).count 0 ≤ (keyValue p r' part).count 0 := by
  intro part mem
  by_contra more
  have query : part.source = .queryParam := by
    by_contra other
    exact more (by simp [count_eq_zero_of_not_mem (received.clear other)])
  -- The part is the only one with zero bytes, so they would be missing from the whole text.
  have fewer : ∀ other ∈ listed, (keyValue p r' other).count 0 ≤ (keyValue p r other).count 0 := by
    intro other listed
    by_cases asked : other.source = .queryParam
    · rw [one other listed part mem asked query]
      omega
    · simp [count_eq_zero_of_not_mem (received'.clear asked)]
  have total := congrArg (count 0) same
  rw [zeros_text,zeros_text] at total
  have less := sum_lt_sum _ _ fewer ⟨part,mem,by omega⟩
  omega

end

theorem separates_of_one (injective : Function.Injective p.hash) (one : OneQuery parts) : Separates p parts := by
  intro r r' received received' same
  rw [hash_eq,hash_eq] at same
  have same := injective same
  exact values_eq.mpr (text_inj_of_zeros (fun part mem => le_antisymm (zeros_le one received received' same part mem)
    (zeros_le one received' received same.symm part mem)) same)

section

variable (base : Request) (first second value other : Bytes)

/-- The request with other values for two query parameters. -/
def asks : Request :=
  { base with query := fun name => if name = first then value else if name = second then other else base.query name }

variable {base first second value other}

theorem text_asks (apart : ∀ part ∈ listed, part ≠ ⟨.queryParam,first⟩ ∧ part ≠ ⟨.queryParam,second⟩) :
    keyText p (asks base first second value other) listed = keyText p base listed := by
  refine flatMap_congr fun part mem => ?_
  obtain ⟨source,name⟩ := part
  cases source with
  | queryParam =>
    have names : name ≠ first ∧ name ≠ second := by simpa using apart _ mem
    simp [keyValue,asks,names]
  | _ => rfl

/-- The text of the request, where the two parameters hold values that are kept whole. -/
theorem text_pair {front middle back : List KeyPart} (names : second ≠ first)
    (apart : ∀ part, part ∈ front ∨ part ∈ middle ∨ part ∈ back → part ≠ ⟨.queryParam,first⟩ ∧ part ≠ ⟨.queryParam,second⟩)
    (some : value ≠ [] ∧ other ≠ [])
    (fits : value.length ≤ maxRateLimitKeyValueBytes ∧ other.length ≤ maxRateLimitKeyValueBytes) :
    keyText p (asks base first second value other)
        (front ++ ⟨.queryParam,first⟩ :: (middle ++ ⟨.queryParam,second⟩ :: back)) =
      keyText p base front ++ (keyLabel p ⟨.queryParam,first⟩ ++ [0] ++ (value ++ [0] ++
        (keyText p base middle ++ (keyLabel p ⟨.queryParam,second⟩ ++ [0] ++ (other ++ [0] ++ keyText p base back))))) := by
  have asked : keyValue p (asks base first second value other) ⟨.queryParam,first⟩ = value := by
    simp [keyValue,asks,some,take_of_length_le,fits]
  have asked' : keyValue p (asks base first second value other) ⟨.queryParam,second⟩ = other := by
    simp [keyValue,asks,some,names,take_of_length_le,fits]
  rw [keyText_append,keyText_cons,keyText_append,keyText_cons,asked,asked',
    text_asks fun part inside => apart part (.inl inside),text_asks fun part inside => apart part (.inr (.inl inside)),
    text_asks fun part inside => apart part (.inr (.inr inside))]

/-- Either of two query parameters may hold the text from the one to the other. -/
theorem queries_share (roomy : Roomy p parts) {front middle back : List KeyPart}
    (split : keyParts parts = front ++ ⟨.queryParam,first⟩ :: (middle ++ ⟨.queryParam,second⟩ :: back)) :
    ¬ Separates p parts := by
  obtain ⟨distinct,base,received,room⟩ := roomy
  rw [split] at distinct room
  set between := keyText p base middle ++ keyLabel p ⟨.queryParam,second⟩ with marks
  have short : between.length + 2 ≤ maxRateLimitKeyValueBytes := by
    simp only [keyText,flatMap_append,flatMap_cons,length_append] at room
    rw [marks,length_append,keyText]
    omega
  have names : second ≠ first := by
    rintro rfl
    simp [nodup_append] at distinct
  have apart (part : KeyPart) (inside : part ∈ front ∨ part ∈ middle ∨ part ∈ back) :
      part ≠ ⟨.queryParam,first⟩ ∧ part ≠ ⟨.queryParam,second⟩ := by
    simp only [nodup_append,nodup_cons,mem_append,mem_cons] at distinct
    grind
  intro separates
  have same := separates (asks base first second [1] (between ++ [0,1])) (asks base first second ([1,0] ++ between) [1])
    { received with } { received with } (by
      rw [hash_eq,hash_eq,split,text_pair names apart (by simp) ⟨by decide,length_append.trans_le short⟩,
        text_pair names apart (by simp) ⟨length_append.trans_le (Nat.add_comm 2 _ ▸ short),by decide⟩]
      simp [marks])
  have listed : ⟨.queryParam,second⟩ ∈ keyParts parts := by simp [split]
  have equal := values_eq.mp same _ listed
  have size := congrArg length equal
  simp only [keyValue,asks,names,if_true,if_false,length_take] at size
  simp [maxRateLimitKeyValueBytes] at size
  omega

end

/-- A rule with one query parameter separates the requests it receives, and a rule with two does
not if its key texts are short. -/
theorem keys_separate (p : Primitives κ) (injective : Function.Injective p.hash) (parts : List KeyPart) :
    (OneQuery parts → Separates p parts) ∧ (Roomy p parts → Separates p parts → OneQuery parts) := by
  refine ⟨separates_of_one injective,fun roomy separates first mem second mem' query query' => ?_⟩
  obtain ⟨_,first⟩ := first
  obtain ⟨_,second⟩ := second
  cases query
  cases query'
  by_contra apart
  obtain ⟨front,rest,split⟩ := append_of_mem mem
  rw [split,mem_append,mem_cons] at mem'
  obtain before | same | after := mem'
  · obtain ⟨front,middle,rfl⟩ := append_of_mem before
    rw [append_assoc,cons_append] at split
    exact queries_share roomy split separates
  · exact apart same.symm
  · obtain ⟨middle,back,rfl⟩ := append_of_mem after
    exact queries_share roomy split separates

def plainPrimitives : Primitives Bytes := ⟨⟨some,id⟩,id,id⟩

def asking (path : Bytes) (query : Bytes → Bytes) : Request where
  identity := none
  remoteAddr := text "192.0.2.1:4000"
  host := text "example.com"
  method := text "GET"
  path
  protocol := text "http"
  header _ := []
  cookie _ := none
  query

theorem received_asking {query : Bytes → Bytes} : Received plainPrimitives (asking (text "/a") query) := by
  have plain : Received plainPrimitives (asking (text "/a") fun _ => []) := by
    constructor <;> first | decide +kernel | simp [asking]
  exact { plain with }

def twoQueries : List KeyPart := [⟨.queryParam,text "q"⟩,⟨.queryParam,text "r"⟩]

def shiftedQuery (name : Bytes) : Bytes := if name = text "q" then text "b" else text "query_param:r" ++ [0] ++ text "c"

def shiftedBack (name : Bytes) : Bytes := if name = text "q" then text "b" ++ [0] ++ text "query_param:r" else text "c"

/-- One query value of a request holds what the other one holds in the other request. -/
theorem decoded_zero_shares_key : ¬ ∀ (κ : Type) (p : Primitives κ) (parts : List KeyPart) (r r' : Request),
    Function.Injective p.hash → Received p r → Received p r' →
      rateLimitKeyHash p (keyValues p parts r) = rateLimitKeyHash p (keyValues p parts r') →
      keyValues p parts r = keyValues p parts r' := by
  intro claim
  have equal := claim Bytes plainPrimitives twoQueries (asking (text "/a") shiftedQuery) (asking (text "/a") shiftedBack)
    Function.injective_id received_asking received_asking (by decide +kernel)
  exact absurd equal (by decide +kernel)

/-- With the path and one query parameter, a zero byte in the query gives another key. -/
theorem keys_separate_plain :
    rateLimitKeyHash plainPrimitives
        (keyValues plainPrimitives [⟨.path,[]⟩,⟨.queryParam,text "q"⟩] (asking (text "/a") shiftedQuery)) ≠
      rateLimitKeyHash plainPrimitives
        (keyValues plainPrimitives [⟨.path,[]⟩,⟨.queryParam,text "q"⟩] (asking (text "/a") shiftedBack)) := by
  have one : OneQuery [⟨.path,[]⟩,⟨.queryParam,text "q"⟩] := by simp [OneQuery,keyParts]
  intro same
  have equal := (keys_separate plainPrimitives Function.injective_id _).1 one _ _ received_asking received_asking same
  exact absurd equal (by decide +kernel)

end P2pstream.RateLimitKeys
