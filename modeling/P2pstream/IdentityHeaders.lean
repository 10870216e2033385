import P2pstream.Kernel.PublicAccess
import P2pstream.ClientAddress

/-! The identity headers an upstream gets to see are those of the authenticated principal,
whatever the client sends under their names.
-/
namespace P2pstream.IdentityHeaders
open Library.Encoding (Bytes text)
open Library Library.Text Table AList List Headers.Header
open Library.Headers (Header canonicalKey validFieldName lower tokenByte canonicalKey_canonicalKey canonicalKey_of_lower)
open Kernel.TrustedProxies (ClientIdentityResolver)
open ClientAddress (agree_congr)
open Kernel.PublicAccess

variable {e : Environment} {t : ConfigPrimitives} {snap : PublicProxySnapshot} {provider : PublicAccessProvider}
  {principal : PublicAccessPrincipal} {h : Header} {name : Bytes}

theorem values_addAll (h : Header) (name other : Bytes) (values : List Bytes) : Header.values (addAll h name values) other =
      if canonicalKey other = canonicalKey name then Header.values h name ++ values else Header.values h other := by
  unfold addAll
  induction values generalizing h with
  | nil =>
    rw [append_nil]
    split
    · rename_i same
      exact values_congr h same
    · rfl
  | cons _ _ ih =>
    rw [foldl_cons,ih,values_add,values_add,if_pos rfl]
    split
    · rw [append_assoc,singleton_append]
    · rfl

def Canonical (h : Header) : Prop := ∀ key values, h.lookup key = some values → canonicalKey key = key

theorem canonical_empty : Canonical ∅ := nofun

theorem canonical_insert (canonical : Canonical h) (name : Bytes) (values : List Bytes) :
    Canonical (h.insert (canonicalKey name) values) := forall_insert canonical (canonicalKey_canonicalKey name)

theorem canonical_addAll (canonical : Canonical h) (name : Bytes) (values : List Bytes) : Canonical (addAll h name values) := by
  induction values generalizing h with
  | nil => exact canonical
  | cons _ _ ih =>
    apply ih
    exact canonical_insert canonical name _

theorem values_restore (entries : List (Sigma fun _ : Bytes => List Bytes)) (distinct : entries.NodupKeys)
    (canonical : ∀ entry ∈ entries, canonicalKey entry.1 = entry.1) (h : Header) (name : Bytes) :
    Header.values (entries.foldl (fun h entry => addAll (del h entry.1) entry.1 entry.2) h) name =
      (entries.dlookup (canonicalKey name)).getD (Header.values h name) := by
  induction entries generalizing h with
  | nil => rfl
  | cons entry rest ih =>
    obtain ⟨key,values⟩ := entry
    have proper := canonical _ mem_cons_self
    obtain ⟨absent,distinct⟩ := nodupKeys_cons.mp distinct
    rw [foldl_cons,ih distinct (fun other mem => canonical other (mem_cons_of_mem _ mem)),values_addAll,
      values_del,values_del,if_pos rfl]
    rw [proper]
    by_cases same : canonicalKey name = key
    · have none : rest.dlookup key = none := dlookup_eq_none.mpr absent
      rw [same,if_pos rfl,dlookup_cons_eq,none]
      rfl
    · rw [if_neg same,if_neg same,dlookup_cons_ne rest ⟨key,values⟩ same]

theorem values_applyTrusted (canonical : Canonical principal.forwardedHeader)
    (trusted : canonicalKey name ∈ principal.headerNames.map canonicalKey) (h : Header) :
    Header.values (applyTrustedPublicAccessHeaders (some principal) h) name = Header.values principal.forwardedHeader name := by
  have entries : ∀ entry ∈ principal.forwardedHeader.entries, canonicalKey entry.1 = entry.1 := by
    intro entry mem
    exact canonical entry.1 entry.2 (lookup_of_mem_entries _ entry mem)
  have none : Header.values (principal.headerNames.foldl del h) name = [] := by
    rw [values_foldl_del,if_pos trusted]
  have empty : Header.values (if principal.stripAuthorization then
      del (principal.headerNames.foldl del h) (text "Authorization")
      else principal.headerNames.foldl del h) name = [] := by
    split
    · rw [values_del,none,ite_self]
    · exact none
  unfold applyTrustedPublicAccessHeaders
  rw [values_restore _ principal.forwardedHeader.nodupKeys entries,empty]
  rfl

structure Forwardable (name : Bytes) : Prop where
  token : name.all tokenByte = true
  given : name ≠ []
  canonical : canonicalKey name = name
  allowed : publicAccessForbiddenForwardedHeader name = false

theorem localHeaders_forwardable : ∀ name ∈ localPublicAccessForwardedHeaders, Forwardable name := by
  have checked : ∀ name ∈ localPublicAccessForwardedHeaders, name.all tokenByte ∧ name ≠ [] ∧
      canonicalKey name = name ∧ publicAccessForbiddenForwardedHeader name = false := by decide +kernel
  intro name mem
  obtain ⟨token,given,canonical,allowed⟩ := checked name mem
  exact ⟨token,given,canonical,allowed⟩

theorem canonicalKey_ne_nil {name : Bytes} (given : name ≠ []) : canonicalKey name ≠ [] := by
  unfold canonicalKey
  split
  · cases name with
    | nil => exact (given rfl).elim
    | cons => exact cons_ne_nil _ _
  · exact given

theorem normalizeHeaders_forwardable {values before result : List Bytes} (ok : normalizeHeaders values before = .ok result)
    (earlier : ∀ name ∈ before, Forwardable name) : ∀ name ∈ result, Forwardable name := by
  induction values generalizing before with
  | nil =>
    cases ok
    exact earlier
  | cons value _ ih =>
    unfold normalizeHeaders at ok
    dsimp only at ok
    split at ok
    · cases ok
    rename_i valid
    split at ok
    · cases ok
    rename_i allowed
    split at ok
    · exact ih ok earlier
    · apply ih ok
      intro name mem
      rcases mem_append.mp mem with old | new
      · exact earlier name old
      · obtain rfl := mem_singleton.mp new
        have field : validFieldName (trimSpace value) := by
          by_contra invalid
          exact valid (.inr invalid)
        simp only [validFieldName,Bool.and_eq_true,decide_eq_true_eq] at field
        have shape : canonicalKey (trimSpace value) = Headers.canonicalBytes true (trimSpace value) := if_pos field.2
        exact ⟨shape ▸ Headers.all_canonicalBytes true field.2,canonicalKey_ne_nil field.1,canonicalKey_canonicalKey _,
          Bool.eq_false_iff.mpr allowed⟩

def Loaded (provider : PublicAccessProvider) : Prop := (∀ name ∈ provider.forwardedHeaders, Forwardable name) ∧
    (provider.providerType = .localAuth → provider.forwardedHeaders = localPublicAccessForwardedHeaders)

theorem bind_ok {α β : Type} {first : Except String α} {next : α → Except String β} {result : β} :
    first >>= next = .ok result ↔ ∃ a, first = .ok a ∧ next a = .ok result := by
  cases first <;> simp [bind,Except.bind]

theorem rowToConfig_loaded {row : PublicAccessProviderRow} (ok : publicAccessProviderRowToConfig t row = .ok provider) :
    Loaded provider := by
  unfold publicAccessProviderRowToConfig at ok
  split at ok
  · simp only [bind_ok] at ok
    obtain ⟨_,_,given,_,_,normal,ok⟩ := ok
    split at ok
    · cases ok
    cases ok
    refine ⟨fun name mem => ?_,nofun⟩
    unfold normalizePublicAccessHeaderList at normal
    split at normal
    · cases normal
    cases read : normalizeHeaders given [] with
    | error => simp [read,Except.map] at normal
    | ok =>
      simp only [read,Except.map,Except.ok.injEq] at normal
      subst normal
      exact normalizeHeaders_forwardable read nofun name ((mem_insertionSort byLower).mp mem)
  · split at ok
    · obtain ⟨_,_,ok⟩ := bind_ok.mp ok
      cases ok
      exact ⟨localHeaders_forwardable,fun _ => rfl⟩
    · cases ok

def AllLoaded (providers : Table Int PublicAccessProvider) : Prop :=
  ∀ id provider, providers.lookup id = some provider → Loaded provider

theorem AllLoaded.insert {providers : Table Int PublicAccessProvider} (all : AllLoaded providers) (id : Int)
    (loaded : Loaded provider) : AllLoaded (providers.insert id provider) := forall_insert all loaded

variable {rows : List PublicAccessProviderRow} {before after : Table Int PublicAccessProvider}
  {users : List (Int × PublicAccessUser)} {route : PublicRoute}

theorem loadProviders_loaded (ok : loadProviders t rows before = .ok after) (all : AllLoaded before) : AllLoaded after := by
  induction rows generalizing before with
  | nil =>
    cases ok
    exact all
  | cons row _ ih =>
    obtain ⟨_,made,ok⟩ := bind_ok.mp ok
    exact ih ok (all.insert _ (rowToConfig_loaded made))

theorem loadUsers_loaded (ok : loadUsers users before = .ok after) (all : AllLoaded before) : AllLoaded after := by
  induction users generalizing before with
  | nil =>
    cases ok
    exact all
  | cons entry _ ih =>
    obtain ⟨providerID,_⟩ := entry
    unfold loadUsers at ok
    split at ok
    · cases ok
    rename_i provider found
    split at ok
    · cases ok
    split at ok
    · cases ok
    · apply ih ok
      apply all.insert
      exact all providerID provider found

theorem snapshot_loaded {policies : List PublicAccessPolicy} {clientIdentity : ClientIdentityResolver}
    (ok : snapshotFromPublicRows t rows users policies clientIdentity = .ok snap) :
    AllLoaded snap.accessProviders ∧ snap.accessHeaderNames = headerNamesOf (values snap.accessProviders) ∧
      snap.clientIdentity = clientIdentity := by
  simp only [snapshotFromPublicRows,bind_ok] at ok
  obtain ⟨_,first,_,second,_,_,ok⟩ := ok
  cases ok
  exact ⟨loadUsers_loaded second (loadProviders_loaded first nofun),rfl,rfl⟩

theorem seen_covers (names : List Bytes) (seen : Table Bytes Bytes)
    (keyed : ∀ key kept, seen.lookup key = some kept → lower kept = key ∧ kept.all tokenByte)
    (tokens : ∀ name ∈ names, name.all tokenByte) (name : Bytes)
    (known : name ∈ names ∨ (seen.lookup (lower name)).isSome) :
    ∃ kept, (names.foldl (fun (seen : Table Bytes Bytes) name => seen.insert (lower name) name) seen).lookup (lower name) =
      some kept ∧ lower kept = lower name ∧ kept.all tokenByte := by
  induction names generalizing seen with
  | nil =>
    obtain ⟨kept,present⟩ := Option.isSome_iff_exists.mp (known.resolve_left not_mem_nil)
    exact ⟨kept,present,keyed _ _ present⟩
  | cons first _ ih =>
    apply ih
    · exact forall_insert keyed ⟨rfl,tokens _ mem_cons_self⟩
    · intro other mem
      exact tokens other (mem_cons_of_mem _ mem)
    · by_cases same : lower name = lower first
      · rw [same,lookup_insert]
        exact .inr rfl
      · rw [lookup_insert_ne same]
        apply known.imp_left
        intro mem
        rcases mem_cons.mp mem with rfl | later
        · exact (same rfl).elim
        · exact later

def Identity (snap : PublicProxySnapshot) (name : Bytes) : Prop :=
  ∃ id provider, snap.accessProviders.lookup id = some provider ∧ canonicalKey name ∈ provider.forwardedHeaders.map canonicalKey

theorem Identity.of_listed {id : Int} {names : List Bytes}
    (listed : (snap.accessProviders.lookup id).map PublicAccessProvider.forwardedHeaders = some names) (mem : name ∈ names) :
    Identity snap name := by
  obtain ⟨provider,present,rfl⟩ := Option.map_eq_some_iff.mp listed
  exact ⟨id,provider,present,mem_map_of_mem mem⟩

theorem Identity.congr {other : Bytes} (identity : Identity snap name) (same : canonicalKey other = canonicalKey name) :
    Identity snap other := by
  obtain ⟨id,provider,present,mem⟩ := identity
  exact ⟨id,provider,present,same ▸ mem⟩

section

variable (identity : Identity snap name) (all : AllLoaded snap.accessProviders)
include identity all

theorem Identity.forwardable : Forwardable (canonicalKey name) := by
  obtain ⟨id,provider,present,mem⟩ := identity
  obtain ⟨configured,listed,same⟩ := mem_map.mp mem
  have proper := (all id provider present).1 configured listed
  rwa [← same,proper.canonical]

section

variable (names : snap.accessHeaderNames = headerNamesOf (values snap.accessProviders))
include names

theorem Identity.trusted : canonicalKey name ∈ (publicAccessConfiguredHeaderNames snap).map canonicalKey := by
  have proper := identity.forwardable all
  obtain ⟨id,provider,present,mem⟩ := identity
  have configured : publicAccessConfiguredHeaderNames snap = headerNamesOf (values snap.accessProviders) := by
    unfold publicAccessConfiguredHeaderNames
    rw [names,ite_self]
  have listed : canonicalKey name ∈ (((values snap.accessProviders).flatMap PublicAccessProvider.forwardedHeaders).map
      canonicalKey).filter (· ≠ []) := by
    obtain ⟨forwarded,given,same⟩ := mem_map.mp mem
    apply mem_filter.mpr
    refine ⟨mem_map.mpr ⟨forwarded,mem_flatMap.mpr ⟨provider,?_,given⟩,same⟩,decide_eq_true proper.given⟩
    exact mem_values_of_lookup _ id provider present
  have tokens : ∀ other ∈ (((values snap.accessProviders).flatMap PublicAccessProvider.forwardedHeaders).map
      canonicalKey).filter (· ≠ []), other.all tokenByte := by
    intro _ inside
    obtain ⟨forwarded,given,rfl⟩ := mem_map.mp (mem_filter.mp inside).1
    obtain ⟨owner,owned,holds⟩ := mem_flatMap.mp given
    obtain ⟨key,found⟩ := lookup_of_mem_values _ owned
    have fits := (all key owner found).1 forwarded holds
    rw [fits.canonical]
    exact fits.token
  obtain ⟨kept,found,same,token⟩ := seen_covers _ ∅ nofun tokens _ (.inl listed)
  apply mem_map.mpr
  refine ⟨kept,?_,?_⟩
  · rw [configured]
    apply (mem_insertionSort byLower).mpr
    exact mem_values_of_lookup _ _ kept found
  · rw [canonicalKey_of_lower token proper.token same,canonicalKey_canonicalKey]

theorem Identity.configured : publicAccessConfiguredHeaderNames snap ≠ [] := by
  intro empty
  have trusted := identity.trusted all names
  rw [empty] at trusted
  cases trusted

end

theorem Identity.not_forbidden {reserved : Bytes}
    (forbidden : publicAccessForbiddenForwardedHeader (canonicalKey reserved)) : canonicalKey name ≠ canonicalKey reserved := by
  intro same
  have allowed := (identity.forwardable all).allowed
  rw [same,forbidden] at allowed
  cases allowed

end

/-- What a granted principal holds came from its provider, under names of the provider. -/
structure Holds (provider : PublicAccessProvider) (principal : PublicAccessPrincipal) : Prop where
  canonical : Canonical principal.forwardedHeader
  own : ∀ name, canonicalKey name ∉ provider.forwardedHeaders.map canonicalKey →
    Header.values principal.forwardedHeader name = []

theorem canonical_collect (names : List Bytes) (response : Header) (canonical : Canonical h) :
    Canonical (names.foldl (fun forwarded name => addAll forwarded name (Header.values response name)) h) := by
  induction names generalizing h with
  | nil => exact canonical
  | cons _ _ ih =>
    apply ih
    exact canonical_addAll canonical _ _

theorem values_collect_other (names : List Bytes) (response h : Header) (other : canonicalKey name ∉ names.map canonicalKey) :
    Header.values (names.foldl (fun forwarded name => addAll forwarded name (Header.values response name)) h) name =
      Header.values h name := by
  induction names generalizing h with
  | nil => rfl
  | cons _ _ ih =>
    rw [map_cons,mem_cons,not_or] at other
    rw [foldl_cons,ih _ other.2,values_addAll,if_neg other.1]

theorem fromResponse_holds (made : publicAccessPrincipalFromResponse provider h = some principal) : Holds provider principal := by
  unfold publicAccessPrincipalFromResponse at made
  split at made
  · cases made
  · cases made
    refine ⟨canonical_collect _ _ canonical_empty,?_⟩
    intro _ other
    rw [values_collect_other _ _ _ other]
    rfl

section

variable (loaded : Loaded provider) (isLocal : provider.providerType = .localAuth)
include loaded isLocal

theorem fromLocalUser_holds (user : PublicAccessUser) : Holds provider (publicAccessPrincipalFromLocalUser provider user) := by
  constructor
  · unfold publicAccessPrincipalFromLocalUser
    split
    · exact canonical_insert (canonical_insert canonical_empty _ _) _ _
    · exact canonical_insert (canonical_insert (canonical_insert canonical_empty _ _) _ _) _ _
  · intro name other
    rw [loaded.2 isLocal] at other
    have names : ∀ used ∈ localPublicAccessForwardedHeaders, canonicalKey name ≠ canonicalKey used := by
      intro used listed same
      exact other (mem_map.mpr ⟨used,listed,same.symm⟩)
    have user := names (text "X-Auth-Request-User") (by simp [localPublicAccessForwardedHeaders])
    have preferred := names (text "X-Auth-Request-Preferred-Username") (by simp [localPublicAccessForwardedHeaders])
    have groups := names (text "X-Auth-Request-Groups") (by simp [localPublicAccessForwardedHeaders])
    unfold publicAccessPrincipalFromLocalUser
    split
    · rw [values_set,if_neg preferred,values_set,if_neg user]
      rfl
    · rw [values_set,if_neg groups,values_set,if_neg preferred,values_set,if_neg user]
      rfl

theorem basic_holds {r : Request}
    (granted : authenticatePublicLocalBasic e snap provider r = .granted principal) : Holds provider principal := by
  unfold authenticatePublicLocalBasic at granted
  split at granted
  · cases granted
  · rename_i user _
    obtain rfl := AuthenticationResult.granted.inj granted
    have holds := fromLocalUser_holds loaded isLocal user
    exact ⟨holds.canonical,holds.own⟩

theorem local_holds {r : Request}
    (granted : handlePublicLocalAccess e snap provider r = .granted principal) : Holds provider principal := by
  unfold handlePublicLocalAccess at granted
  dsimp only at granted
  iterate 5
    split at granted
    · cases granted
  split at granted
  · split at granted <;> exact nomatch granted
  split at granted
  · exact basic_holds loaded isLocal granted
  split at granted
  · cases granted
  · obtain rfl := AuthenticationResult.granted.inj granted
    exact fromLocalUser_holds loaded isLocal _
  · split at granted
    · exact basic_holds loaded isLocal granted
    · cases granted

end

theorem forwardAuth_holds {url : Bytes} {listener : PublicListener} {r : Request}
    (granted : checkPublicForwardAuth e snap provider url listener r = .granted principal) : Holds provider principal := by
  unfold checkPublicForwardAuth at granted
  split at granted
  · cases granted
  split at granted
  · cases granted
  split at granted
  · split at granted
    · cases granted
    · rename_i made
      obtain rfl := AuthenticationResult.granted.inj granted
      exact fromResponse_holds made
  · split at granted
    · cases granted
    split at granted
    · cases granted
    · unfold forwardAuthRefusal at granted
      iterate 3
        split at granted
        · cases granted
      cases granted

theorem granted_holds (loaded : Loaded provider) {listener : PublicListener} {r : Request}
    (granted : authenticate e snap provider listener r = .granted principal) : Holds provider principal := by
  unfold authenticate at granted
  split at granted
  · split at granted
    · cases granted
    · exact forwardAuth_holds granted
  · rename_i isLocal
    exact local_holds loaded isLocal granted

/-- A header that the authentication itself reads, though providers may forward it. -/
def Seen (snap : PublicProxySnapshot) (name : Bytes) : Prop :=
  canonicalKey name = text "Accept" ∨ canonicalKey name = text "User-Agent" ∨
    ∃ source ∈ snap.clientIdentity.sources, canonicalKey name = canonicalKey source.headerName

/-- The requests differ only in identity headers that the authentication does not read. -/
structure Alike (snap : PublicProxySnapshot) (r r' : Request) : Prop where
  line : r.line = r'.line
  remoteAddr : r.remoteAddr = r'.remoteAddr
  header : ∀ name, ¬ (Identity snap name ∧ ¬ Seen snap name) → Header.values r.header name = Header.values r'.header name

variable {r r' : Request} {listener : PublicListener}

theorem Alike.client (alike : Alike snap r r') : publicAccessRequestClientIP snap r = publicAccessRequestClientIP snap r' := by
  have same : ∀ source ∈ snap.clientIdentity.sources, snap.clientIdentity.resolveSource r.header source =
      snap.clientIdentity.resolveSource r'.header source := by
    intro source mem
    unfold ClientIdentityResolver.resolveSource
    rw [alike.header source.headerName fun unseen => unseen.2 (.inr (.inr ⟨source,mem,rfl⟩))]
  unfold publicAccessRequestClientIP ClientIdentityResolver.resolve Kernel.TrustedProxies.peerAddrFromRequest
  dsimp only
  rw [alike.remoteAddr]
  split
  · rfl
  · rw [agree_congr none fun source mem => same source (filter_subset_self _ mem)]

theorem Alike.reserved (alike : Alike snap r r') (all : AllLoaded snap.accessProviders) {reserved : Bytes}
    (forbidden : publicAccessForbiddenForwardedHeader (canonicalKey reserved)) :
    Header.values r.header reserved = Header.values r'.header reserved := by
  apply alike.header
  intro unseen
  exact unseen.1.not_forbidden all forbidden rfl

theorem reserved_names : publicAccessForbiddenForwardedHeader (canonicalKey (text "Authorization")) ∧
      publicAccessForbiddenForwardedHeader (canonicalKey (text "Cookie")) ∧
      canonicalKey (text "Accept") = text "Accept" ∧ canonicalKey (text "User-Agent") = text "User-Agent" := by
  decide +kernel

section

variable (alike : Alike snap r r') (all : AllLoaded snap.accessProviders)
include alike all

theorem Alike.authorization : Header.values r.header (text "Authorization") = Header.values r'.header (text "Authorization") :=
  alike.reserved all reserved_names.1

theorem Alike.cookie : Header.values r.header (text "Cookie") = Header.values r'.header (text "Cookie") :=
  alike.reserved all reserved_names.2.1

theorem Alike.forwardAuthHeader : forwardAuthHeader e snap listener r = forwardAuthHeader e snap listener r' := by
  have accept : Header.values r.header (text "Accept") = Header.values r'.header (text "Accept") := by
    apply alike.header
    intro unseen
    exact unseen.2 (.inl reserved_names.2.2.1)
  have agent : Header.values r.header (text "User-Agent") = Header.values r'.header (text "User-Agent") := by
    apply alike.header
    intro unseen
    exact unseen.2 (.inr (.inl reserved_names.2.2.2))
  unfold Kernel.PublicAccess.forwardAuthHeader passedToForwardAuth
  simp only [foldl_cons,foldl_nil]
  rw [accept,agent,alike.authorization all,alike.cookie all,alike.line,alike.client]

theorem Alike.authenticate (provider : PublicAccessProvider) :
    authenticate e snap provider listener r = authenticate e snap provider listener r' := by
  have basic : authenticatePublicLocalBasic e snap provider r = authenticatePublicLocalBasic e snap provider r' := by
    unfold authenticatePublicLocalBasic loginClient
    rw [alike.authorization all,alike.client,alike.remoteAddr]
  have sent : publicAccessRequestHasBasicAuthorization r = publicAccessRequestHasBasicAuthorization r' := by
    unfold publicAccessRequestHasBasicAuthorization
    rw [alike.authorization all]
  unfold Kernel.PublicAccess.authenticate checkPublicForwardAuth handlePublicLocalAccess
  rw [alike.forwardAuthHeader all,basic,sent,alike.line,alike.cookie all,alike.authorization all]

theorem Alike.stage (found : PublicRouteMatch) :
    publicAccessControlStage e snap found r = publicAccessControlStage e snap found r' := by
  unfold publicAccessControlStage
  simp only [alike.authenticate all]

end

theorem values_rewrite (target : PublicRouteTarget) (identity : Identity snap name) (all : AllLoaded snap.accessProviders)
    (names : snap.accessHeaderNames = headerNamesOf (values snap.accessProviders))
    (taken : principal.headerNames = publicAccessConfiguredHeaderNames snap) (canonical : Canonical principal.forwardedHeader) :
    Header.values (rewrite e snap target listener (some principal) r) name = Header.values principal.forwardedHeader name := by
  have trusted := identity.trusted all names
  rw [← taken] at trusted
  unfold rewrite setBasicAuth
  split
  · rw [values_applyTrusted canonical trusted]
  · rw [values_set,if_neg (identity.not_forbidden all reserved_names.1),values_applyTrusted canonical trusted]

inductive Passed (e : Environment) (snap : PublicProxySnapshot) (r : Request) (out : Header) (route : PublicRoute)
    (listener : PublicListener) : Prop where
  | open (unprotected : route.accessPolicyID ≤ 0) (bare : ∀ name, Identity snap name → Header.values out name = [])
  | authenticated (policy provider principal) (isProtected : 0 < route.accessPolicyID)
      (policyFound : snap.accessPolicies.lookup route.accessPolicyID = some policy) (policyEnabled : policy.enabled = true)
      (providerFound : snap.accessProviders.lookup policy.providerID = some provider) (providerEnabled : provider.enabled = true)
      (granted : authenticate e snap provider listener r = .granted principal)
      (groups : publicAccessPolicyAllowsGroups policy principal.groups = true) (holds : Holds provider principal)
      (exact : ∀ name, Identity snap name → Header.values out name = Header.values principal.forwardedHeader name)

theorem stage_proceeds {passed : Option PublicAccessPrincipal}
    (proceeds : publicAccessControlStage e snap (.ok (route,listener)) r = .proceed passed) :
    (route.accessPolicyID ≤ 0 ∧ passed = if publicAccessConfiguredHeaderNames snap = [] then none
        else some { headerNames := publicAccessConfiguredHeaderNames snap }) ∨
      (0 < route.accessPolicyID ∧ ∃ policy provider principal, snap.accessPolicies.lookup route.accessPolicyID = some policy ∧
        policy.enabled ∧ snap.accessProviders.lookup policy.providerID = some provider ∧ provider.enabled ∧
        authenticate e snap provider listener r = .granted principal ∧
        publicAccessPolicyAllowsGroups policy principal.groups ∧
        passed = some { principal with headerNames := publicAccessConfiguredHeaderNames snap }) := by
  unfold publicAccessControlStage at proceeds
  dsimp only at proceeds
  split at proceeds
  · rename_i unprotected
    exact .inl ⟨unprotected,(AccessResult.proceed.inj proceeds).symm⟩
  rename_i positive
  split at proceeds
  · cases proceeds
  rename_i policy policyFound
  split at proceeds
  · cases proceeds
  rename_i policyEnabled
  split at proceeds
  · cases proceeds
  rename_i provider providerFound
  split at proceeds
  · cases proceeds
  rename_i providerEnabled
  split at proceeds
  · cases proceeds
  · cases proceeds
  rename_i principal granted
  split at proceeds
  · rename_i groups
    exact .inr ⟨not_le.mp positive,policy,provider,principal,policyFound,not_not.mp policyEnabled,providerFound,
      not_not.mp providerEnabled,granted,groups,(AccessResult.proceed.inj proceeds).symm⟩
  · cases proceeds

section

variable (all : AllLoaded snap.accessProviders)
  (names : snap.accessHeaderNames = headerNamesOf (values snap.accessProviders))
include all names

theorem forwarded_passed {target : PublicRouteTarget}
    {out : Header} (sent : forwarded e snap target (.ok (route,listener)) r = some out) :
    Passed e snap r out route listener := by
  unfold forwarded at sent
  cases stage : publicAccessControlStage e snap (.ok (route,listener)) r with
  | done =>
    rw [stage] at sent
    cases sent
  | proceed =>
    rw [stage] at sent
    cases sent
    rcases stage_proceeds stage with ⟨unprotected,rfl⟩ |
      ⟨isProtected,policy,provider,principal,policyFound,policyEnabled,providerFound,providerEnabled,granted,groups,rfl⟩
    · refine .open unprotected ?_
      intro name identity
      rw [if_neg (identity.configured all names),values_rewrite target identity all names rfl canonical_empty]
      rfl
    · have holds := granted_holds (all _ provider providerFound) granted
      refine .authenticated policy provider principal isProtected policyFound policyEnabled providerFound providerEnabled granted
        groups holds ?_
      intro _ identity
      exact values_rewrite target identity all names rfl holds.canonical

theorem forwarded_alike (target : PublicRouteTarget)
    (found : PublicRouteMatch) (alike : Alike snap r r') (identity : Identity snap name) :
    (forwarded e snap target found r).map (Header.values · name) =
      (forwarded e snap target found r').map (Header.values · name) := by
  cases found with
  | error => rfl
  | ok matched =>
    obtain ⟨route,listener⟩ := matched
    unfold forwarded
    rw [← alike.stage all]
    cases stage : publicAccessControlStage e snap (.ok (route,listener)) r with
    | done => rfl
    | proceed =>
      dsimp only [Option.map_some]
      -- What is left depends on the principal alone.
      rcases stage_proceeds stage with ⟨_,rfl⟩ | ⟨_,_,provider,principal,_,_,providerFound,_,granted,_,rfl⟩
      · rw [if_neg (identity.configured all names),values_rewrite target identity all names rfl canonical_empty,
          values_rewrite target identity all names rfl canonical_empty]
      · have canonical := (granted_holds (all _ provider providerFound) granted).canonical
        have fields (request : Request) : Header.values (rewrite e snap target listener
            (some { principal with headerNames := publicAccessConfiguredHeaderNames snap }) request) name =
              Header.values principal.forwardedHeader name :=
          values_rewrite target identity all names rfl canonical
        rw [fields r,fields r']

end

/-- With any snapshot that loads, what a client sends under the names of identity headers has
no influence on those the upstream gets. -/
theorem identity_headers_noninterference {rows : List PublicAccessProviderRow} {users : List (Int × PublicAccessUser)}
    {policies : List PublicAccessPolicy} {clientIdentity : ClientIdentityResolver}
    (loaded : snapshotFromPublicRows t rows users policies clientIdentity = .ok snap) :
    (∀ target found r r' name, Alike snap r r' → Identity snap name →
      (forwarded e snap target found r).map (Header.values · name) =
        (forwarded e snap target found r').map (Header.values · name)) ∧
    (∀ target route listener r out, forwarded e snap target (.ok (route,listener)) r = some out →
      Passed e snap r out route listener) := by
  obtain ⟨all,names,_⟩ := snapshot_loaded loaded
  constructor
  · intro target found r _ _ alike identity
    exact forwarded_alike all names target found alike identity
  · intro _ _ _ _ _ sent
    exact forwarded_passed all names sent

/-- Lists are separated by commas, and everything else is taken as it is. -/
def labPrimitives : ConfigPrimitives where
  parsePublicForwardAuthURL url := .ok url
  publicAccessStringListFromJSON list := .ok (list.splitOn Kernel.TrustedProxies.comma)
  localAuthSettings _ := .ok (.form,[])

def labRow (forwardedHeadersJson : Bytes) : PublicAccessProviderRow :=
  { id := 1, providerType := text "forward_auth", enabled := true, subjectHeader := text "X-Auth-Request-User"
    userHeader := text "X-Auth-Request-User", emailHeader := text "X-Auth-Request-Email"
    groupsHeader := text "X-Auth-Request-Groups", forwardAuthUrl := text "http://auth/", forwardedHeadersJson
    timeoutMillis := 1000, localAuth := [] }

def labPolicy : PublicAccessPolicy :=
  { id := 1, name := text "staff", providerID := 1, enabled := true, requiredGroups := [], groupMatch := .any }

def labResolver : ClientIdentityResolver := { sources := [], headerNames := [], maxHeaderBytes := 8192, maxHops := 32 }

/-- The service knows one user, and tells back the user agent it was asked with. -/
def labEnvironment : Environment where
  forwardAuth _ request := some {
    status := 200
    header := set (set ∅ (text "X-Auth-Request-User") (text "ada")) (text "User-Agent")
      (get request.header (text "User-Agent"))
    body := some 0 }
  basic _ _ _ := none
  session _ _ := .ok none
  hostAllowed _ _ := true
  normalizeRequestHost host := host
  publicAccessOriginalURL line _ := line.uri
  withoutSessionCookie cookies := cookies
  removeHopByHop h := h

def labRequest (h : Header) : Request :=
  { line := { method := text "GET", host := text "app", uri := text "/", path := text "/", query := ∅ }
    remoteAddr := text "192.0.2.1:4711", header := h }

def labTarget : PublicRouteTarget := { upstreamRequestHeaders := [], basicAuth := none }

def labMatch : PublicRouteMatch := .ok (⟨1,1⟩,⟨true,443⟩)

def labLoad (names : Bytes) : Except String PublicProxySnapshot :=
  snapshotFromPublicRows labPrimitives [labRow names] [] [labPolicy] labResolver

/-- What the provider forwards, and the lines that the upstream gets under a name for each request. -/
def labAnswers (name : Bytes) (headers : List Header) (snap : PublicProxySnapshot) : Option (List Bytes) × List (Option (List Bytes)) :=
  ((snap.accessProviders.lookup 1).map PublicAccessProvider.forwardedHeaders,
    headers.map fun h => (forwarded labEnvironment snap labTarget labMatch (labRequest h)).map (Header.values · name))

theorem labLoad_ok {names : Bytes} {name : Bytes} {headers : List Header} {answers : Option (List Bytes) × List (Option (List Bytes))}
    (answered : (labLoad names).toOption.map (labAnswers name headers) = some answers) :
    ∃ snap, labLoad names = .ok snap ∧ labAnswers name headers snap = answers := by
  cases loaded : labLoad names with
  | error => simp [loaded,Except.toOption] at answered
  | ok snap =>
    rw [loaded] at answered
    exact ⟨snap,rfl,Option.some.inj answered⟩

def labAgent (agent : Bytes) : Header := set ∅ (text "User-Agent") agent

/-- A provider may forward a header that its service is asked with: then the service can tell
the client's own value back. -/
theorem echoed_user_agent : ∃ snap r r', labLoad (text "User-Agent") = .ok snap ∧ r.line = r'.line ∧
    r.remoteAddr = r'.remoteAddr ∧
    (∀ name, ¬ Identity snap name → Header.values r.header name = Header.values r'.header name) ∧
    Identity snap (text "User-Agent") ∧
    (forwarded labEnvironment snap labTarget labMatch r).map (Header.values · (text "User-Agent")) = some [text "curl"] ∧
    (forwarded labEnvironment snap labTarget labMatch r').map (Header.values · (text "User-Agent")) = some [text "wget"] := by
  have answered : (labLoad (text "User-Agent")).toOption.map
      (labAnswers (text "User-Agent") [labAgent (text "curl"),labAgent (text "wget")]) =
        some (some [text "User-Agent"],[some [text "curl"],some [text "wget"]]) := by decide +kernel
  obtain ⟨snap,loaded,answers⟩ := labLoad_ok answered
  obtain ⟨listed,sent⟩ := Prod.mk.inj answers
  have identity : Identity snap (text "User-Agent") := .of_listed listed (mem_singleton_self _)
  obtain ⟨first,rest⟩ := cons.inj sent
  refine ⟨snap,labRequest (labAgent (text "curl")),labRequest (labAgent (text "wget")),loaded,rfl,rfl,?_,identity,first,
    (cons.inj rest).1⟩
  intro name other
  have different : canonicalKey name ≠ canonicalKey (text "User-Agent") := by
    intro same
    exact other (identity.congr same)
  dsimp only [labRequest,labAgent]
  rw [values_set,if_neg different,values_set,if_neg different]

def labUser (user : Bytes) : Header := set ∅ (text "X-Auth-Request-User") user

theorem identity_headers_noninterference_user : ∃ snap, labLoad (text "X-Auth-Request-User") = .ok snap ∧
    Identity snap (text "X-Auth-Request-User") ∧
    Alike snap (labRequest (labUser (text "mallory"))) (labRequest ∅) ∧
    (forwarded labEnvironment snap labTarget labMatch (labRequest (labUser (text "mallory")))).map
      (Header.values · (text "X-Auth-Request-User")) = some [text "ada"] ∧
    (forwarded labEnvironment snap labTarget labMatch (labRequest (labUser (text "mallory")))).map
        (Header.values · (text "X-Auth-Request-User")) =
      (forwarded labEnvironment snap labTarget labMatch (labRequest ∅)).map (Header.values · (text "X-Auth-Request-User")) := by
  have answered : (labLoad (text "X-Auth-Request-User")).toOption.map
      (labAnswers (text "X-Auth-Request-User") [labUser (text "mallory")]) =
        some (some [text "X-Auth-Request-User"],[some [text "ada"]]) := by decide +kernel
  obtain ⟨snap,loaded,answers⟩ := labLoad_ok answered
  obtain ⟨listed,sent⟩ := Prod.mk.inj answers
  have identity : Identity snap (text "X-Auth-Request-User") := .of_listed listed (mem_singleton_self _)
  have proxies : snap.clientIdentity = labResolver := (snapshot_loaded loaded).2.2
  have unseen : ¬ Seen snap (text "X-Auth-Request-User") := by
    unfold Seen
    rw [proxies]
    have names : canonicalKey (text "X-Auth-Request-User") ≠ text "Accept" ∧
        canonicalKey (text "X-Auth-Request-User") ≠ text "User-Agent" := by decide +kernel
    simp [names,labResolver]
  have alike : Alike snap (labRequest (labUser (text "mallory"))) (labRequest ∅) := by
    refine ⟨rfl,rfl,?_⟩
    intro name other
    have different : canonicalKey name ≠ canonicalKey (text "X-Auth-Request-User") := by
      intro same
      apply other
      refine ⟨identity.congr same,?_⟩
      unfold Seen at unseen ⊢
      rwa [same]
    dsimp only [labRequest,labUser]
    rw [values_set,if_neg different]
  exact ⟨snap,loaded,identity,alike,(cons.inj sent).1,
    (identity_headers_noninterference loaded).1 labTarget labMatch _ _ _ alike identity⟩

end P2pstream.IdentityHeaders
