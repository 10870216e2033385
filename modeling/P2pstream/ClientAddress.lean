import P2pstream.Library.Checks
import P2pstream.Kernel.TrustedProxies

/-! A client cannot choose the address it is taken for. Without a trusted proxy no header is
read, and a chain is read from the end that the trusted proxies wrote.
-/
namespace P2pstream.ClientAddress
open Library.Encoding (Bytes text)
open Library Library.Addresses Library.Text List Option Headers.Header
open Library.Headers (Header canonicalKey)
open Kernel.TrustedProxies

variable {r : ClientIdentityResolver} {sources : List TrustedProxySource} {built : List TrustedProxyResolverSource}
  {source : TrustedProxyResolverSource} {header header' : Header} {values values' : List Bytes} {addr a b : Addr}

def Trusted (sources : List TrustedProxySource) (addr : Addr) : Prop :=
  ∃ source ∈ sources, source.enabled = true ∧ ∃ configured ∈ source.prefixes, ∃ p,
    normalizeTrustedProxyPrefix configured = some p ∧ p.contains addr.unmap = true

theorem prefixesContain_deduplicate (prefixes : List Prefix) (addr : Addr) :
    prefixesContain (deduplicatePrefixes prefixes) addr = prefixesContain prefixes addr := by
  rw [Bool.eq_iff_iff]
  simp [prefixesContain,deduplicatePrefixes]

theorem mem_of_mapM {α β : Type} {f : α → Option β} {input : List α} {output : List β} {y : β}
    (all : input.mapM f = some output) (mem : y ∈ output) : ∃ x ∈ input, f x = some y := by
  induction input generalizing output with
  | nil =>
    cases all
    cases mem
  | cons first _ ih =>
    simp only [mapM_cons,Checks.bind_some] at all
    obtain ⟨_,reads,_,others,result⟩ := all
    cases result
    rcases mem_cons.mp mem with rfl | later
    · exact ⟨first,mem_cons_self,reads⟩
    · obtain ⟨x,inside,same⟩ := ih others later
      exact ⟨x,mem_cons_of_mem _ inside,same⟩

/-- What a source that passes its checks is built into. -/
def plain (source : TrustedProxySource) : TrustedProxyResolverSource where
  name := trimSpace source.name
  prefixes := (normalizeTrustedProxyPrefixes source.prefixes).getD []
  headerName := canonicalKey (trimSpace source.headerName)
  headerMode := source.headerMode

theorem resolverSources_plain {before : List TrustedProxyResolverSource} (ok : resolverSources sources before = .ok built) :
    built = before ++ (sources.filter (·.enabled)).map plain := by
  induction sources generalizing before with
  | nil =>
    cases ok
    simp
  | cons first rest ih =>
    unfold resolverSources at ok
    split at ok
    next disabled => simpa [disabled] using ih ok
    next enabled =>
      split at ok
      next => exact nomatch ok
      next next made =>
        have same : next = plain first := by
          unfold resolverSource at made
          dsimp only at made
          split_ifs at made
          split at made
          next => exact nomatch made
          next normal =>
            cases made
            simp [plain,normal]
        simp at enabled
        simpa [same,enabled] using ih ok

variable {options : ClientIdentityResolverOptions} {remoteAddr : Bytes} {maxHops : Int} {raw : List Bytes}
  {matching : List TrustedProxyResolverSource} {resolved : Option Addr}

@[simp] theorem withChainTrust_prefixes : (withChainTrust built source).prefixes = source.prefixes := by
  unfold withChainTrust
  split <;> rfl

section

variable (made : newClientIdentityResolver sources options = .ok r)
include made

theorem newResolver_plain : let built := (sources.filter (·.enabled)).map plain
    r.sources = built.map (withChainTrust built) ∧
      r.maxHeaderBytes = (if options.maxHeaderBytes = 0 then defaultTrustedProxyHeaderBytes else options.maxHeaderBytes) ∧
      r.maxHops = if options.maxHops = 0 then defaultTrustedProxyMaxHops else options.maxHops := by
  unfold newClientIdentityResolver at made
  dsimp only at made
  generalize (if options.maxHeaderBytes = 0 then defaultTrustedProxyHeaderBytes else options.maxHeaderBytes) = bytes at made ⊢
  generalize (if options.maxHops = 0 then defaultTrustedProxyMaxHops else options.maxHops) = hops at made ⊢
  split_ifs at made
  split at made
  · cases made
  · rename_i built ok
    cases made
    obtain rfl := resolverSources_plain ok
    exact ⟨rfl,rfl,rfl⟩

theorem newResolver_trusts (mem : source ∈ r.sources)
    (contains : prefixesContain source.prefixes addr) : Trusted sources addr := by
  rw [(newResolver_plain made).1] at mem
  obtain ⟨_,listed,rfl⟩ := mem_map.mp mem
  obtain ⟨given,kept,rfl⟩ := mem_map.mp listed
  obtain ⟨listed,enabled⟩ := mem_filter.mp kept
  rw [withChainTrust_prefixes] at contains
  cases normal : normalizeTrustedProxyPrefixes given.prefixes with
  | none => simp [plain,normal,prefixesContain] at contains
  | some prefixes =>
    obtain ⟨_,all,rfl⟩ := map_eq_some_iff.mp normal
    rw [plain,normal,getD_some,prefixesContain_deduplicate] at contains
    obtain ⟨p,inside,covers⟩ := any_eq_true.mp contains
    obtain ⟨configured,mem,same⟩ := mem_of_mapM all inside
    exact ⟨given,listed,enabled,configured,mem,p,same,covers⟩

theorem resolve_untrusted
    (untrusted : ∀ peer, peerAddrFromRequest ⟨remoteAddr,header⟩ = some peer → ¬ Trusted sources peer) :
    r.resolve ⟨remoteAddr,header⟩ = r.resolve ⟨remoteAddr,header'⟩ := by
  have same : peerAddrFromRequest ⟨remoteAddr,header'⟩ = peerAddrFromRequest ⟨remoteAddr,header⟩ := rfl
  unfold ClientIdentityResolver.resolve
  rw [same]
  cases found : peerAddrFromRequest ⟨remoteAddr,header⟩ with
  | none => rfl
  | some peer =>
    have none : (r.sources.filter fun source => prefixesContain source.prefixes peer) = [] := by
      rw [filter_eq_nil_iff]
      intro _ mem contains
      exact untrusted peer found (newResolver_trusts made mem contains)
    dsimp only
    rw [if_pos none,if_pos none]

end

/-- The attacker put lines or list elements in front of the values of a header. -/
inductive Prepended : List Bytes → List Bytes → Prop where
  | lines (lines values : List Bytes) : Prepended values (lines ++ values)
  | elements (lines : List Bytes) (element value : Bytes) (rest : List Bytes) :
      Prepended (value :: rest) (lines ++ (element ++ comma :: value) :: rest)

theorem Prepended.hops (prepended : Prepended values values') :
    ∃ front, values'.flatMap (·.splitOn comma) = front ++ values.flatMap (·.splitOn comma) := by
  cases prepended with
  | lines lines => exact ⟨lines.flatMap (·.splitOn comma),flatMap_append⟩
  | elements lines element value =>
    have split : (element ++ comma :: value).splitOn comma = element.splitOn comma ++ value.splitOn comma :=
      splitOnP_append_cons element value (beq_self_eq_true comma)
    refine ⟨lines.flatMap (·.splitOn comma) ++ element.splitOn comma,?_⟩
    rw [flatMap_append,flatMap_cons,flatMap_cons,split]
    simp only [append_assoc]

theorem Prepended.single {value value' : Bytes} (prepended : Prepended [value] [value']) : value' = value ∨ comma ∈ value' := by
  generalize one : [value] = values at prepended
  generalize other : [value'] = values' at prepended
  cases prepended with
  | lines lines =>
    subst one
    obtain ⟨_,rfl⟩ : lines = [] ∧ value = value' := by simpa [append_eq_cons_iff] using other.symm
    exact .inl rfl
  | elements lines element =>
    obtain ⟨rfl,rfl⟩ := cons.inj one
    obtain ⟨_,rfl⟩ : lines = [] ∧ element ++ comma :: value = value' := by simpa [append_eq_cons_iff] using other.symm
    exact .inr (by simp)

theorem readHops_mapM {before hops : List Addr}
    (ok : readHops maxHops raw before = some hops) : ∃ read, raw.mapM parseBareIP = some read ∧ hops = before ++ read := by
  induction raw generalizing before with
  | nil =>
    cases ok
    exact ⟨[],rfl,(append_nil _).symm⟩
  | cons _ _ ih =>
    unfold readHops at ok
    split at ok
    · cases ok
    · split at ok
      · cases ok
      · rename_i hop reads
        obtain ⟨read,later,rfl⟩ := ih ok
        refine ⟨hop :: read,?_,by simp⟩
        simp [mapM_cons,reads,later]

theorem resolveSource_prepended
    (prepended : Prepended (Header.values header source.headerName) (Header.values header' source.headerName))
    (ok : r.resolveSource header source = .ok a) (ok' : r.resolveSource header' source = .ok b) : b = a := by
  unfold ClientIdentityResolver.resolveSource at ok ok'
  dsimp only at ok ok'
  generalize Header.values header source.headerName = values at prepended ok
  generalize Header.values header' source.headerName = values' at prepended ok'
  iterate 2
    split at ok
    · cases ok
    split at ok'
    · cases ok'
  cases mode : source.headerMode with
  | other =>
    rw [mode] at ok
    cases ok
  | trustedChain =>
    rw [mode] at ok ok'
    dsimp only at ok ok'
    obtain ⟨_,same⟩ := prepended.hops
    rw [same] at ok'
    split at ok
    · cases ok
    split at ok'
    · cases ok'
    rename_i hops reads _ hops' reads'
    split at ok
    · cases ok
    rename_i hop found
    obtain ⟨_,read,rfl⟩ := readHops_mapM reads
    obtain ⟨_,read',rfl⟩ := readHops_mapM reads'
    simp only [mapM_append,Checks.bind_some,read] at read'
    obtain ⟨_,_,_,same,result⟩ := read'
    cases same
    cases result
    rw [reverse_append,find?_append,found] at ok'
    exact (Except.ok.inj ok').symm.trans (Except.ok.inj ok)
  | singleIP =>
    rw [mode] at ok ok'
    dsimp only at ok ok'
    split at ok
    · rename_i value
      split at ok'
      · rename_i value'
        split at ok'
        · cases ok'
        · rename_i single
          obtain rfl := prepended.single.resolve_right single
          rw [if_neg single] at ok
          exact Except.ok.inj (ok'.symm.trans ok)
      · cases ok'
    · cases ok

theorem agree_congr (resolved : Option Addr)
    (same : ∀ source ∈ matching, r.resolveSource header source = r.resolveSource header' source) :
    r.agree header matching resolved = r.agree header' matching resolved := by
  induction matching generalizing resolved with
  | nil => rfl
  | cons first rest ih =>
    obtain ⟨here,later⟩ := forall_mem_cons.mp same
    simp only [ClientIdentityResolver.agree,here,ih _ later]

theorem agree_all (ok : r.agree header matching resolved = .ok (some a)) :
    (resolved = none ∨ resolved = some a) ∧ ∀ source ∈ matching, r.resolveSource header source = .ok a := by
  induction matching generalizing resolved with
  | nil =>
    cases ok
    exact ⟨.inr rfl,nofun⟩
  | cons _ _ ih =>
    unfold ClientIdentityResolver.agree at ok
    split at ok
    · cases ok
    rename_i candidate names
    split at ok
    · cases ok
    rename_i agrees
    obtain ⟨same,others⟩ := ih ok
    obtain rfl : candidate = a := by simpa using same
    refine ⟨?_,fun source mem => ?_⟩
    · cases resolved with
      | none => exact .inl rfl
      | some => simpa using agrees
    · rcases mem_cons.mp mem with rfl | later
      · exact names
      · exact others source later

theorem agree_some {outcome : Option Addr}
    (some : matching ≠ [] ∨ resolved.isSome) (ok : r.agree header matching resolved = .ok outcome) : outcome.isSome := by
  induction matching generalizing resolved with
  | nil =>
    cases ok
    exact some.resolve_left (fun impossible => impossible rfl)
  | cons _ _ ih =>
    unfold ClientIdentityResolver.agree at ok
    split at ok
    · cases ok
    split at ok
    · cases ok
    · exact ih (.inr rfl) ok

theorem resolve_prepended (prepended : ∀ name, Prepended (Header.values header name) (Header.values header' name))
    (resolved : (r.resolve ⟨remoteAddr,header⟩).resolved = some a) :
    (r.resolve ⟨remoteAddr,header'⟩).resolved = some a ∨
      ((r.resolve ⟨remoteAddr,header'⟩).unknown ∧ (r.resolve ⟨remoteAddr,header'⟩).resolved = none) := by
  have same : peerAddrFromRequest ⟨remoteAddr,header'⟩ = peerAddrFromRequest ⟨remoteAddr,header⟩ := rfl
  unfold ClientIdentityResolver.resolve at resolved ⊢
  rw [same]
  cases found : peerAddrFromRequest ⟨remoteAddr,header⟩ with
  | none => exact .inr ⟨rfl,rfl⟩
  | some peer =>
    rw [found] at resolved
    dsimp only at resolved ⊢
    generalize (r.sources.filter fun source => prefixesContain source.prefixes peer) = matching at resolved ⊢
    by_cases none : matching = []
    · rw [if_pos none] at resolved ⊢
      exact .inl resolved
    · rw [if_neg none] at resolved ⊢
      split at resolved
      · cases resolved
      rename_i outcome ok
      obtain rfl : outcome = some a := resolved
      split
      · exact .inr ⟨rfl,rfl⟩
      · rename_i outcome' ok'
        left
        obtain ⟨_,rfl⟩ := isSome_iff_exists.mp (agree_some (.inl none) ok')
        obtain ⟨first,mem⟩ := exists_mem_of_ne_nil matching none
        have names := (agree_all ok).2 first mem
        have names' := (agree_all ok').2 first mem
        exact congrArg some (resolveSource_prepended (prepended first.headerName) names names')

/-- The client of a request that does not come through a trusted proxy is not read from its
headers, and what is put in front of a header never makes it another client. -/
theorem client_address_unspoofable {options : ClientIdentityResolverOptions}
    (made : newClientIdentityResolver sources options = .ok r) :
    (∀ remoteAddr header header', (∀ peer, peerAddrFromRequest ⟨remoteAddr,header⟩ = some peer → ¬ Trusted sources peer) →
      r.resolve ⟨remoteAddr,header⟩ = r.resolve ⟨remoteAddr,header'⟩) ∧
    (∀ header header' source a, source.headerMode = .trustedChain →
      Prepended (Header.values header source.headerName) (Header.values header' source.headerName) →
        r.resolveSource header source = .ok a →
          r.resolveSource header' source = .ok a ∨ ∃ reason, r.resolveSource header' source = .error reason) ∧
    ∀ remoteAddr header header' a, (∀ name, Prepended (Header.values header name) (Header.values header' name)) →
      (r.resolve ⟨remoteAddr,header⟩).resolved = some a → (r.resolve ⟨remoteAddr,header'⟩).resolved = some a ∨
          ((r.resolve ⟨remoteAddr,header'⟩).unknown = true ∧ (r.resolve ⟨remoteAddr,header'⟩).resolved = none) := by
  refine ⟨fun _ _ _ untrusted => resolve_untrusted made untrusted,?_,fun _ _ _ _ prepended => resolve_prepended prepended⟩
  intro _ header' source _ _ prepended ok
  cases ok' : r.resolveSource header' source with
  | error reason => exact .inr ⟨reason,rfl⟩
  | ok =>
    left
    rw [resolveSource_prepended prepended ok ok']

def labSources : List TrustedProxySource :=
  [{ name := text "edge", enabled := true, prefixes := [some (.v4 0x0a000000 8)], headerName := text "x-forwarded-for"
     headerMode := .trustedChain }]

def labChain : Bytes := text "203.0.113.7, 10.0.0.2"

theorem client_address_unspoofable_chain : ∃ r, newClientIdentityResolver labSources {} = .ok r ∧
    (r.resolve ⟨text "10.0.0.1:443",set ∅ (text "X-Forwarded-For") labChain⟩).resolved = some (.v4 0xcb007107) ∧
    ((r.resolve ⟨text "10.0.0.1:443",set ∅ (text "X-Forwarded-For") (text "1.2.3.4" ++ comma :: labChain)⟩).resolved =
        some (.v4 0xcb007107) ∨
      ((r.resolve ⟨text "10.0.0.1:443",set ∅ (text "X-Forwarded-For")
          (text "1.2.3.4" ++ comma :: labChain)⟩).unknown = true ∧
        (r.resolve ⟨text "10.0.0.1:443",set ∅ (text "X-Forwarded-For")
          (text "1.2.3.4" ++ comma :: labChain)⟩).resolved = none)) := by
  have checked : (match newClientIdentityResolver labSources {} with
      | .error _ => none
      | .ok r => (r.resolve ⟨text "10.0.0.1:443",set ∅ (text "X-Forwarded-For") labChain⟩).resolved) =
        some (.v4 0xcb007107) := by decide +kernel
  cases made : newClientIdentityResolver labSources {} with
  | error =>
    rw [made] at checked
    cases checked
  | ok r =>
    rw [made] at checked
    refine ⟨r,rfl,checked,(client_address_unspoofable made).2.2 _ _ _ _ (fun _ => ?_) checked⟩
    rw [Header.values_set,Header.values_set]
    split
    · exact .elements [] (text "1.2.3.4") labChain []
    · exact .lines [] _

end P2pstream.ClientAddress
