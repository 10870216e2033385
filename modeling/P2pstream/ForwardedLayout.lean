import P2pstream.ClientAddress

/-! The layout of a forwarded chain and the order of the sources do not matter, up to the byte
limit that padding counts against.
-/
namespace P2pstream.ForwardedLayout
open Library Library.Encoding Library.Text Library.Addresses Library.Headers Kernel.TrustedProxies ClientAddress List Bool

variable {r : ClientIdentityResolver} {source : TrustedProxyResolverSource} {built built' : List TrustedProxyResolverSource}
  {sources sources' : List TrustedProxySource} {options : ClientIdentityResolverOptions} {header header' : Header}
  {values values' : List Bytes}

def joined (values : List Bytes) : Bytes := [comma].intercalate values

/-- The elements of the joined lines without the padding around them. -/
def elements (values : List Bytes) : List Bytes := ((joined values).splitOn comma).map (trimSet (text " \t"))

/-- Lines that make the same list, padding aside, and that the byte limit treats alike. -/
structure Relaid (limit : Int) (values values' : List Bytes) : Prop where
  present : values ≠ []
  present' : values' ≠ []
  same : elements values = elements values'
  fits : (joined values).length ≤ limit ↔ (joined values').length ≤ limit

theorem joined_cons (value next : Bytes) (rest : List Bytes) :
    joined (value :: next :: rest) = value ++ comma :: joined (next :: rest) := by
  simp [joined,intercalate]

theorem joined_facts (present : values ≠ []) : (joined values).splitOn comma = values.flatMap (·.splitOn comma) ∧
    ((joined values).length : Int) = (values.map length).sum + (values.length - 1) := by
  induction values with
  | nil => exact absurd rfl present
  | cons value rest ih =>
    cases rest with
    | nil => simp [joined,intercalate]
    | cons next rest =>
      obtain ⟨splits,counts⟩ := ih (by simp)
      rw [joined_cons,flatMap_cons,← splits]
      refine ⟨splitOnP_append_cons _ _ (beq_self_eq_true comma),?_⟩
      simp at counts ⊢
      omega

theorem readHops_congr {maxHops : Int} {raw raw' : List Bytes}
    (same : raw.map (trimSet (text " \t")) = raw'.map (trimSet (text " \t"))) (hops : List Addr) :
    readHops maxHops raw hops = readHops maxHops raw' hops := by
  induction raw generalizing raw' hops with
  | nil => rw [map_eq_nil_iff.mp same.symm]
  | cons first rest ih =>
    obtain ⟨first',rest',rfl,trimmed,same⟩ := map_eq_cons_iff.mp same.symm
    have reads : parseBareIP first = parseBareIP first' := by simp only [parseBareIP,trimmed]
    simp only [readHops,reads,ih same.symm]

theorem resolveSource_relaid (chain : source.headerMode = .trustedChain)
    (relaid : Relaid r.maxHeaderBytes (header.values source.headerName) (header'.values source.headerName)) :
    r.resolveSource header source = r.resolveSource header' source := by
  obtain ⟨present,present',same,fits⟩ := relaid
  obtain ⟨splits,counts⟩ := joined_facts present
  obtain ⟨splits',counts'⟩ := joined_facts present'
  rw [elements,elements,splits,splits'] at same
  rw [counts,counts'] at fits
  simp only [ClientIdentityResolver.resolveSource,chain,if_neg present,if_neg present',readHops_congr same,← not_le,fits]

theorem agree_iff {matching : List TrustedProxyResolverSource} (some_ : matching ≠ []) :
    (∃ outcome, r.agree header matching none = .ok outcome) ↔
      ∃ a, ∀ source ∈ matching, r.resolveSource header source = .ok a := by
  constructor
  · rintro ⟨outcome,ok⟩
    obtain ⟨a,rfl⟩ := Option.isSome_iff_exists.mp (agree_some (.inl some_) ok)
    exact ⟨a,(agree_all ok).2⟩
  · rintro ⟨a,all⟩
    have agrees : ∀ resolved, resolved = none ∨ resolved = some a → ∃ outcome, r.agree header matching resolved = .ok outcome := by
      clear some_
      induction matching with
      | nil => exact fun resolved _ => ⟨resolved,rfl⟩
      | cons first rest ih =>
        obtain ⟨here,later⟩ := forall_mem_cons.mp all
        rintro _ (rfl | rfl) <;> simpa [ClientIdentityResolver.agree,here] using ih later (some a) (.inr rfl)
    exact agrees none (.inl rfl)

/-- A client is known if all sources that match the peer name the same one. -/
theorem known_iff (req : Request) : (r.resolve req).unknown = false ↔ ∃ peer, peerAddrFromRequest req = some peer ∧
    ∃ a, ∀ source ∈ r.sources, prefixesContain source.prefixes peer → r.resolveSource req.header source = .ok a := by
  unfold ClientIdentityResolver.resolve
  cases peerAddrFromRequest req with
  | none => simp
  | some peer =>
    simp only [Option.some.injEq,exists_eq_left',← forall_mem_filter]
    generalize r.sources.filter (fun source => prefixesContain source.prefixes peer) = matching
    split_ifs with none
    · exact ⟨fun _ => ⟨peer,by simp [none]⟩,fun _ => rfl⟩
    · rw [← agree_iff none]
      split <;> simp_all [ClientIdentityResolver.unresolvedTrustedIdentity]

theorem resolveSource_order {r' : ClientIdentityResolver} (perm : built.Perm built') (bytes : r.maxHeaderBytes = r'.maxHeaderBytes)
    (hops : r.maxHops = r'.maxHops) :
    r.resolveSource header (withChainTrust built source) = r'.resolveSource header (withChainTrust built' source) := by
  have trust : prefixesContain (deduplicatePrefixes (chainTrustDomain built source.headerName)) =
      prefixesContain (deduplicatePrefixes (chainTrustDomain built' source.headerName)) := by
    funext addr
    rw [prefixesContain_deduplicate,prefixesContain_deduplicate]
    exact ((perm.filter _).flatMap_right _).any_eq
  unfold withChainTrust
  split <;> simp only [ClientIdentityResolver.resolveSource,bytes,hops,trust]

/-- The lines and the padding of a chain do not change the client, nor the order of the sources
whether there is one. -/
theorem forwarded_layout_independent :
    (∀ (r : ClientIdentityResolver) remoteAddr (header header' : Header), (∀ source ∈ r.sources,
        header.values source.headerName = header'.values source.headerName ∨ source.headerMode = .trustedChain ∧
          Relaid r.maxHeaderBytes (header.values source.headerName) (header'.values source.headerName)) →
      r.resolve ⟨remoteAddr,header⟩ = r.resolve ⟨remoteAddr,header'⟩) ∧
    ∀ sources sources' options r r', sources.Perm sources' → newClientIdentityResolver sources options = .ok r →
      newClientIdentityResolver sources' options = .ok r' → ∀ req, (r.resolve req).unknown = (r'.resolve req).unknown := by
  constructor
  · intro r remoteAddr header header' relaid
    have same : ∀ source ∈ r.sources, r.resolveSource header source = r.resolveSource header' source := by
      intro source mem
      rcases relaid source mem with equal | ⟨chain,relaid⟩
      · simp only [ClientIdentityResolver.resolveSource,equal]
      · exact resolveSource_relaid chain relaid
    have agreed (peer : Addr) : r.agree header (r.sources.filter (prefixesContain ·.prefixes peer)) none =
        r.agree header' (r.sources.filter (prefixesContain ·.prefixes peer)) none :=
      agree_congr none fun source mem => same source (mem_filter.mp mem).1
    simp only [ClientIdentityResolver.resolve,agreed]
    rfl
  · intro sources sources' options r r' perm made made' req
    obtain ⟨listed,bytes,hops⟩ := newResolver_plain made
    obtain ⟨listed',bytes',hops'⟩ := newResolver_plain made'
    have built := (perm.filter (·.enabled)).map plain
    rw [← not_inj_iff,Bool.eq_iff_iff,not_eq_true',not_eq_true',known_iff,known_iff,listed,listed']
    simp only [forall_mem_map,withChainTrust_prefixes,resolveSource_order built (bytes.trans bytes'.symm) (hops.trans hops'.symm),
      built.mem_iff]

def labLines : Header :=
  Header.add (Header.set ∅ (text "X-Forwarded-For") (text "203.0.113.7 ")) (text "X-Forwarded-For") (text "10.0.0.2")

/-- The chain in two lines, with a blank at the end of the first. -/
theorem forwarded_layout_independent_lines : ∃ r, newClientIdentityResolver labSources {} = .ok r ∧
    r.resolve ⟨text "10.0.0.1:443",Header.set ∅ (text "X-Forwarded-For") labChain⟩ =
      r.resolve ⟨text "10.0.0.1:443",labLines⟩ := by
  have checked : (newClientIdentityResolver labSources {}).toOption.any (fun r => r.maxHeaderBytes = defaultTrustedProxyHeaderBytes &&
      r.sources.all fun source => source.headerName = text "X-Forwarded-For" && source.headerMode = .trustedChain) := by
    decide +kernel
  cases made : newClientIdentityResolver labSources {} with
  | error =>
    rw [made] at checked
    cases checked
  | ok r =>
    simp only [made,Except.toOption,Option.any_some,Bool.and_eq_true,decide_eq_true_eq,all_eq_true] at checked
    refine ⟨r,rfl,forwarded_layout_independent.1 r _ _ _ fun source mem => .inr ?_⟩
    obtain ⟨name,mode⟩ := checked.2 source mem
    rw [name,checked.1]
    exact ⟨mode,by decide +kernel,by decide +kernel,by decide +kernel,by decide +kernel⟩

/-- Padding that takes a header over the byte limit makes its client unknown. -/
theorem padding_past_limit : (newClientIdentityResolver labSources { maxHeaderBytes := 24 }).toOption.map (fun r =>
    ((r.resolve ⟨text "10.0.0.1:443",Header.set ∅ (text "X-Forwarded-For") labChain⟩).unknown,
      (r.resolve ⟨text "10.0.0.1:443",Header.set ∅ (text "X-Forwarded-For") (text "    " ++ labChain)⟩).unknown)) =
    some (false,true) := by decide +kernel

end P2pstream.ForwardedLayout
