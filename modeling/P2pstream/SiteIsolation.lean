import P2pstream.Library.Checks
import P2pstream.Kernel.PublicSites

/-! Hosts claimed by sites: who claims a host is a matter of which rows there are, and the site that
claims it answers alone.
-/
namespace P2pstream.SiteIsolation
open Library Library.Text Library.AddressText Kernel.PublicSites Checks List
open Library.Encoding (Bytes text)

def Normal (value : Bytes) : Prop :=
  (∀ byte ∈ value, (0x21 ≤ byte ∧ byte < 0x7f) ∧ Headers.isUpper byte = false) ∧ value.getLast? ≠ some dot

def Clean (value : Bytes) : Prop :=
  (∀ byte ∈ value, ((0x21 ≤ byte ∧ byte < 0x7f) ∧ Headers.isUpper byte = false) ∧ byte ≠ star) ∧ value.getLast? ≠ some dot

variable {value host : Bytes} {x : Lexicon} {listenerID : Nat} {rows : Rows}

theorem Clean.normal (clean : Clean value) : Normal value := ⟨fun byte mem => (clean.1 byte mem).1,clean.2⟩

theorem normalize_normal (x : Lexicon) (clean : Normal value) : normalizeHostPattern x value = value := by
  have ascii : value.all (· < 0x80) := by
    rw [all_eq_true]
    intro byte mem
    exact decide_eq_true (UInt8.lt_trans (clean.1 byte mem).1.2 (by decide))
  have lowered : Headers.lower value = value := by
    rw [Headers.lower,map_congr_left fun byte mem => show Headers.lowerByte byte = id byte by
      rw [Headers.lowerByte,(clean.1 byte mem).2,if_neg (by simp),id],map_id]
  rw [normalizeHostPattern,trimSpace_of_plain fun byte mem => (clean.1 byte mem).1,Lexicon.toLower,if_pos ascii,lowered,
    trimDot,if_neg clean.2]

theorem address_clean {address : Addresses.Addr} (unzoned : address.zone = []) : Clean (formatAddr address) := by
  refine ⟨?_,getLast_formatAddr unzoned⟩
  have digits : ∀ place < 16, ((0x21 ≤ digit place ∧ digit place < 0x7f) ∧ Headers.isUpper (digit place) = false) ∧
      digit place ≠ star := by decide
  intro _ mem
  rcases mem_formatAddr unzoned mem with rfl | rfl | ⟨place,small,rfl⟩
  · decide
  · decide
  · exact digits place small

theorem label_clean {label : Bytes} (valid : validLabel label) : label ≠ [] ∧ Clean label := by
  have letters : ∀ number < 256, labelByte (UInt8.ofNat number) →
      (((0x21 ≤ UInt8.ofNat number ∧ UInt8.ofNat number < 0x7f) ∧ Headers.isUpper (UInt8.ofNat number) = false) ∧
        UInt8.ofNat number ≠ star) ∧ UInt8.ofNat number ≠ dot := by decide +kernel
  simp only [validLabel,Bool.and_eq_true,decide_eq_true_eq,all_eq_true] at valid
  have known : ∀ byte ∈ label, (((0x21 ≤ byte ∧ byte < 0x7f) ∧ Headers.isUpper byte = false) ∧ byte ≠ star) ∧ byte ≠ dot := by
    intro byte mem
    have fact := letters byte.toNat byte.toNat_lt
    rw [UInt8.ofNat_toNat] at fact
    exact fact (valid.2 byte mem)
  exact ⟨valid.1.1.1.1,fun byte mem => (known byte mem).1,fun last => (known dot (mem_of_getLast? last)).2 rfl⟩

theorem labels_clean {labels : List Bytes} (valid : ∀ label ∈ labels, validLabel label) :
    (labels ≠ [] → [dot].intercalate labels ≠ []) ∧ Clean ([dot].intercalate labels) := by
  induction labels with
  | nil => exact ⟨fun impossible => (impossible rfl).elim,by simp [Clean,intercalate]⟩
  | cons label rest ih =>
    obtain ⟨some,clean⟩ := label_clean (valid label mem_cons_self)
    obtain ⟨joined,tidy⟩ := ih fun other mem => valid other (mem_cons_of_mem _ mem)
    cases rest with
    | nil => simpa [intercalate] using ⟨some,clean⟩
    | cons next later =>
      have split : [dot].intercalate (label :: next :: later) = label ++ dot :: [dot].intercalate (next :: later) := by
        simp [intercalate]
      have last : (label ++ dot :: [dot].intercalate (next :: later)).getLast? = ([dot].intercalate (next :: later)).getLast? := by
        rw [getLast?_append_cons,getLast?_cons_of_ne_nil (joined (by simp))]
      refine ⟨fun _ => by simp,?_,last ▸ tidy.2⟩
      intro byte mem
      rcases mem_append.mp mem with inside | inside
      · exact clean.1 byte inside
      · rcases mem_cons.mp inside with rfl | inside
        · decide
        · exact tidy.1 byte inside

theorem name_clean {name : Bytes} (valid : (name.splitOn dot).all validLabel) : Clean name := by
  have clean := (labels_clean (all_eq_true.mp valid)).2
  rwa [intercalate_splitOn] at clean
variable {pattern : Bytes} {b : Binding} {site : Nat} {listener : Listener} {r : Request}

theorem pattern_normal (normal : normalizePublicSiteHostnamePattern x value = some pattern) : Normal pattern := by
  simp only [normalizePublicSiteHostnamePattern,bind_some,guard_some] at normal
  obtain ⟨_,_,normal⟩ := normal
  split at normal
  · simp only [bind_some,Option.guard_eq_some',exists_const] at normal
    exact Option.some.inj normal.2 ▸ (address_clean normal.1.1).normal
  · simp only [bind_some,Option.guard_eq_some',exists_const,validPublicSiteDNSName,Bool.and_eq_true] at normal
    obtain ⟨_,_,⟨_,_,labels⟩,written⟩ := normal
    have clean := (name_clean labels).normal
    split at written
    · simp only [bind_some,Option.guard_eq_some',exists_const] at written
      have last := getLast?_append_of_ne_nil wildcardMark (ne_nil_of_mem written.1)
      rw [← Option.some.inj written.2]
      refine ⟨?_,last ▸ clean.2⟩
      intro byte mem
      rcases mem_append.mp mem with _ | inside
      · clear mem
        revert byte
        decide +kernel
      · exact clean.1 byte inside
    · exact Option.some.inj written ▸ clean

theorem hostname_clean (normal : normalizePublicSiteRequestHostname x value = some host) : Clean host := by
  simp only [normalizePublicSiteRequestHostname,bind_some,guard_some] at normal
  have normal := normal.2
  split at normal
  · simp only [bind_some,Option.guard_eq_some',exists_const] at normal
    exact Option.some.inj normal.2 ▸ address_clean normal.1
  · simp only [normalizePublicSiteRequestDNSName,bind_some,guard_some] at normal
    obtain ⟨_,_,_,_,⟨_,_,labels⟩,written⟩ := normal
    exact Option.some.inj written ▸ name_clean labels

/-- What the authority of a request is read as is the normal form of one of its parts. -/
theorem authority_hostname {authority : Bytes} (read : parsePublicSiteRequestAuthority x authority = some host) :
    ∃ value, normalizePublicSiteRequestHostname x value = some host := by
  simp only [parsePublicSiteRequestAuthority,bind_some,guard_some] at read
  have read := read.2
  split at read
  · simp only [bind_some,Option.guard_eq_some',exists_const] at read
    obtain ⟨_,_,_,_,_,_,normal⟩ := read
    exact ⟨_,normal⟩
  · split at read
    · exact ⟨_,read⟩
    · simp only [bind_some,Option.guard_eq_some',exists_const] at read
      obtain ⟨_,_,_,normal⟩ := read
      exact ⟨_,normal⟩
    · cases read

/-- A published site other than a Default Site is bound to the listener. -/
def Named (rows : Rows) (listenerID site : Nat) : Prop := ∃ b ∈ rows.bindings, b.siteID = site ∧ b.listenerID = listenerID ∧
    ∃ s ∈ rows.sites, s.id = site ∧ s.published = true ∧ s.defaultSite = false

def Covers (suffix host : Bytes) : Prop := ∃ label, label ≠ [] ∧ dot ∉ label ∧ host = label ++ dot :: suffix

/-- An entry of a named site holds a host by its exact name, or by a wildcard if no named site has that name. -/
inductive Holds (rows : Rows) (listenerID : Nat) (host : Bytes) (entry : SiteHost) : Prop
  | exact (mem : entry ∈ rows.hosts) (named : Named rows listenerID entry.siteID) (same : entry.hostnamePattern = host)
  | wildcard (suffix) (mem : entry ∈ rows.hosts) (named : Named rows listenerID entry.siteID)
      (marked : entry.hostnamePattern = wildcardMark ++ suffix) (covers : Covers suffix host)
      (unowned : ∀ other ∈ rows.hosts, Named rows listenerID other.siteID → other.hostnamePattern ≠ host)

def Claims (rows : Rows) (listenerID : Nat) (host : Bytes) (site : Nat) : Prop :=
  ∃ entry, Holds rows listenerID host entry ∧ entry.siteID = site

theorem Holds.named {entry : SiteHost} (holds : Holds rows listenerID host entry) : Named rows listenerID entry.siteID := by
  cases holds <;> assumption

theorem covers_unique {suffix other : Bytes} (first : Covers suffix host) (second : Covers other host) : suffix = other := by
  obtain ⟨_,_,dotless,rfl⟩ := first
  obtain ⟨_,_,dotless',same⟩ := second
  have parts := (cut_append suffix dotless).symm.trans ((congrArg (cut dot) same).trans (cut_append other dotless'))
  exact congrArg Prod.snd (Option.some.inj parts)

theorem strict_iff (tidy : Normal host) (clean : Normal pattern) : strictPublicSiteHostMatches x host pattern ↔
      (∃ suffix, pattern = wildcardMark ++ suffix ∧ Covers suffix host) ∨ (¬ wildcardMark <+: pattern ∧ pattern = host) := by
  simp only [strictPublicSiteHostMatches,normalize_normal x tidy,normalize_normal x clean]
  by_cases marked : wildcardMark <+: pattern
  · obtain ⟨suffix,rfl⟩ := marked
    have dropped : (wildcardMark ++ suffix).drop 2 = suffix := rfl
    rw [if_pos (List.isPrefixOf_iff_prefix.mpr ⟨suffix,rfl⟩),dropped]
    simp only [Bool.and_eq_true,isSuffixOf_iff_suffix,decide_eq_true_eq]
    constructor
    · rintro ⟨⟨ends,some⟩,dotless⟩
      exact .inl ⟨suffix,rfl,_,some,dotless,(suffix_iff_eq_append.mp ends).symm⟩
    · rintro (⟨_,same,label,some,dotless,rfl⟩ | ⟨unmarked,_⟩)
      · obtain rfl := append_cancel_left same
        have front : (label ++ dot :: suffix).take ((label ++ dot :: suffix).length - (dot :: suffix).length) = label := by
          simp
        rw [front]
        exact ⟨⟨suffix_append _ _,some⟩,dotless⟩
      · exact (unmarked ⟨suffix,rfl⟩).elim
  · rw [if_neg fun starts => marked (List.isPrefixOf_iff_prefix.mp starts),decide_eq_true_eq]
    constructor
    · exact fun same => .inr ⟨marked,same.symm⟩
    · rintro (⟨suffix,rfl,_⟩ | ⟨_,same⟩)
      · exact (marked ⟨suffix,rfl⟩).elim
      · exact same.symm

theorem site_iff {id : Nat} {site : Site} : rows.site id = some site ↔ site ∈ rows.sites ∧ site.id = id := by
  rw [Rows.site]
  constructor
  · intro found
    exact ⟨mem_of_find?_eq_some found,by simpa using find?_some found⟩
  · rintro ⟨mem,rfl⟩
    cases found : rows.sites.find? (·.id = site.id) with
    | none => exact (find?_eq_none.mp found site mem (by simp)).elim
    | some other =>
      have same : other.id = site.id := by simpa using find?_some found
      rw [inj_on_of_nodup_map rows.sites_key (mem_of_find?_eq_some found) mem same]

theorem mem_published {defaultSite : Bool} :
    b ∈ rows.published defaultSite listenerID ↔ b ∈ rows.bindings ∧ b.listenerID = listenerID ∧
      ∃ site ∈ rows.sites, site.id = b.siteID ∧ site.published ∧ site.defaultSite = defaultSite := by
  simp only [Rows.published,mem_filter,Bool.and_eq_true,decide_eq_true_eq,Option.any_eq_true,site_iff]
  constructor
  · rintro ⟨mem,here,site,⟨known,same⟩,kind⟩
    exact ⟨mem,here,site,known,same,kind⟩
  · rintro ⟨mem,here,site,known,same,kind⟩
    exact ⟨mem,here,site,⟨known,same⟩,kind⟩

theorem named_iff : Named rows listenerID site ↔ ∃ b ∈ rows.published false listenerID, b.siteID = site := by
  simp only [mem_published]
  constructor
  · rintro ⟨b,mem,rfl,here,kind⟩
    exact ⟨b,⟨mem,here,kind⟩,rfl⟩
  · rintro ⟨b,⟨mem,here,kind⟩,rfl⟩
    exact ⟨b,mem,rfl,here,kind⟩

structure Loaded (x : Lexicon) (rows : Rows) (snap : Snapshot) : Prop where
  sites : snap.sites = rows.site
  listeners : snap.listeners = rows.listener
  bound : ∀ b ∈ rows.bindings, (rows.listener b.listenerID).isSome
  canonical : ∀ entry ∈ rows.hosts, storedCanonically x entry = true
  hosts : ∀ listenerID entry, entry ∈ snap.siteHostsByListener listenerID ↔ entry ∈ rows.hosts ∧ Named rows listenerID entry.siteID
  unique : ∀ {listenerID entry other}, entry ∈ rows.hosts → other ∈ rows.hosts → Named rows listenerID entry.siteID →
    Named rows listenerID other.siteID → entry.hostnamePattern = other.hostnamePattern → entry = other
  bindings : ∀ listenerID b, b ∈ snap.siteBindingsByListener listenerID ↔ b ∈ rows.bindings ∧ b.listenerID = listenerID ∧
    ∃ site ∈ rows.sites, site.id = b.siteID ∧ site.published = true
  defaults : ∀ listenerID, snap.defaultSiteByListener listenerID = (rows.published true listenerID).getLast?
  oneDefault : ∀ {listenerID first second}, first ∈ rows.published true listenerID → second ∈ rows.published true listenerID →
    first.siteID = second.siteID
  routes : ∀ id route, (route ∈ snap.routesBySite id ∨ route ∈ snap.routesByListener id) → route ∈ rows.routes

theorem loaded_spec {snap : Snapshot} (loaded : snapshotFromPublicRows x rows = some snap) : Loaded x rows snap := by
  simp only [snapshotFromPublicRows,bind_some,guard_some] at loaded
  obtain ⟨stored,bound,single,owned,_,made⟩ := loaded
  cases made
  refine ⟨rfl,rfl,fun b mem => (bound b mem).2,fun entry mem => (stored entry mem).2,?_,?_,?_,fun _ => rfl,?_,?_⟩
  · intro listenerID entry
    simp only [mem_flatMap,Rows.hostsOf,mem_filter,decide_eq_true_eq,named_iff]
    constructor
    · rintro ⟨b,bound,mem,same⟩
      exact ⟨mem,b,bound,same.symm⟩
    · rintro ⟨mem,b,bound,same⟩
      exact ⟨b,bound,mem,same.symm⟩
  · intro listenerID entry other mem mem' named named' same
    obtain ⟨b,bound,at_⟩ := named_iff.mp named
    obtain ⟨b',bound',at'⟩ := named_iff.mp named'
    obtain ⟨row,here,_⟩ := mem_published.mp bound
    have once := (owned b row b (here ▸ bound)).2.2 b' (here ▸ bound') entry (by simp [Rows.hostsOf,mem,at_]) other
      (by simp [Rows.hostsOf,mem',at']) same
    exact inj_on_of_nodup_map rows.hosts_key mem mem' (Prod.ext (at_.symm.trans (once.trans at')) same)
  · intro listenerID _
    simp only [mem_filter,Bool.and_eq_true,decide_eq_true_eq,Option.any_eq_true,site_iff,and_assoc]
  · intro _ first second bound bound'
    obtain ⟨row,here,_⟩ := mem_published.mp bound
    exact single first row first (here ▸ bound) second (here ▸ bound')
  · rintro _ _ (own | legacy)
    · exact (mem_filter.mp ((mem_insertionSort _).mp own)).1
    · exact (mem_filter.mp ((mem_insertionSort _).mp legacy)).1

section Claimed

variable {x : Lexicon} {rows : Rows} {snap : Snapshot} {listenerID : Nat} {host : Bytes}

variable {entry : SiteHost} {answer : Answer}

section

variable (loaded : Loaded x rows snap)
include loaded

theorem Loaded.normal (mem : entry ∈ rows.hosts) : Normal entry.hostnamePattern := by
  have stored := loaded.canonical entry mem
  simp only [storedCanonically,Bool.and_eq_true,decide_eq_true_eq] at stored
  exact pattern_normal stored.1

theorem Loaded.holds_unique {other : SiteHost} (holds : Holds rows listenerID host entry)
    (holds' : Holds rows listenerID host other) : entry = other := by
  cases holds with
  | exact mem named same =>
    cases holds' with
    | exact mem' named' same' => exact loaded.unique mem mem' named named' (same.trans same'.symm)
    | wildcard _ _ _ _ _ unowned => exact (unowned entry mem named same).elim
  | wildcard _ mem named marked covers unowned =>
    cases holds' with
    | exact mem' named' same' => exact (unowned other mem' named' same').elim
    | wildcard _ mem' named' marked' covers' =>
      obtain rfl := covers_unique covers covers'
      exact loaded.unique mem mem' named named' (marked.trans marked'.symm)

theorem Loaded.matched_holds (tidy : Normal host)
    (found : matchPublicSiteHost x (snap.siteHostsByListener listenerID) host = some entry) :
    Holds rows listenerID host entry := by
  have entries := loaded.hosts listenerID
  rw [matchPublicSiteHost] at found
  split at found
  · rename_i first
    cases found
    obtain ⟨mem,named⟩ := (entries _).mp (mem_of_find?_eq_some first)
    exact .exact mem named (by simpa using find?_some first)
  · rename_i absent
    obtain ⟨mem,named⟩ := (entries entry).mp (mem_of_find?_eq_some found)
    have fits : strictPublicSiteHostMatches x host entry.hostnamePattern := by simpa using find?_some found
    rcases (strict_iff tidy (loaded.normal mem)).mp fits with ⟨suffix,marked,covers⟩ | ⟨_,same⟩
    · refine .wildcard suffix mem named marked covers ?_
      intro other mem' named' same
      exact find?_eq_none.mp absent other ((entries other).mpr ⟨mem',named'⟩) (decide_eq_true same)
    · exact .exact mem named same

theorem Loaded.matched_iff (tidy : Normal host) :
    matchPublicSiteHost x (snap.siteHostsByListener listenerID) host = some entry ↔ Holds rows listenerID host entry := by
  refine ⟨loaded.matched_holds tidy,?_⟩
  intro holds
  cases found : matchPublicSiteHost x (snap.siteHostsByListener listenerID) host with
  | some => rw [loaded.holds_unique (loaded.matched_holds tidy found) holds]
  | none =>
    have entries := loaded.hosts listenerID
    rw [matchPublicSiteHost] at found
    split at found
    · cases found
    · rename_i absent
      cases holds with
      | exact mem named same =>
        exact (find?_eq_none.mp absent entry ((entries entry).mpr ⟨mem,named⟩) (decide_eq_true same)).elim
      | wildcard suffix mem named marked covers =>
        exact (find?_eq_none.mp found entry ((entries entry).mpr ⟨mem,named⟩)
          ((strict_iff tidy (loaded.normal mem)).mpr (.inl ⟨suffix,marked,covers⟩))).elim

theorem Loaded.resolved (tidy : Normal host) (holds : Holds rows listenerID host entry) :
    ∃ b ∈ rows.bindings, b.siteID = entry.siteID ∧ b.listenerID = listenerID ∧
      matchPublicSiteForListener x snap listenerID host = some (entry,b) := by
  obtain ⟨b,mem,site,here,row,known,same,published,_⟩ := holds.named
  rw [matchPublicSiteForListener,(loaded.matched_iff tidy).mpr holds]
  have listed := (loaded.bindings listenerID b).mpr ⟨mem,here,row,known,same.trans site.symm,published⟩
  cases found : (snap.siteBindingsByListener listenerID).find? (·.siteID = entry.siteID) with
  | none => exact (find?_eq_none.mp found b listed (decide_eq_true site)).elim
  | some chosen =>
    obtain ⟨bound,at_,_⟩ := (loaded.bindings listenerID chosen).mp (mem_of_find?_eq_some found)
    exact ⟨chosen,bound,by simpa using find?_some found,at_,by simp only [found]⟩

end

def OfSite (rows : Rows) (site : Nat) : Answer → Prop
  | .route chosen _ => chosen ∈ rows.routes ∧ chosen.siteID = site
  | .redirect made => made.siteID = site

theorem selectRoute_mem {eligible applies : Route → Bool} {routes : List Route}
    (ok : selectRoute eligible applies routes = .ok answer) :
    ∃ route isDefault, answer = .route route isDefault ∧ route ∈ routes ∧ eligible route := by
  rw [selectRoute] at ok
  split at ok
  · rename_i found
    exact ⟨_,_,(Except.ok.inj ok).symm,mem_filter.mp (mem_of_find?_eq_some found)⟩
  · split at ok
    · rename_i found
      exact ⟨_,_,(Except.ok.inj ok).symm,mem_filter.mp (mem_of_find?_eq_some found)⟩
    · cases ok

theorem Loaded.matchSite_ofSite (loaded : Loaded x rows snap) {path : Bytes}
    (ok : matchSite snap listener entry b host path = .ok answer) : OfSite rows b.siteID answer := by
  rw [matchSite] at ok
  split at ok
  · cases ok
  · rename_i site found
    have same : site.id = b.siteID := (site_iff.mp (loaded.sites ▸ found)).2
    split at ok
    · cases ok
    · split at ok
      · split at ok
        · cases ok
        · rw [← Except.ok.inj ok]
          exact same
      · split at ok
        · rw [← Except.ok.inj ok]
          exact same
        · obtain ⟨route,_,rfl,mem,eligible⟩ := selectRoute_mem ok
          simp only [Bool.and_eq_true,decide_eq_true_eq] at eligible
          refine ⟨?_,eligible.2.trans same⟩
          split at mem
          · exact loaded.routes _ route (.inr mem)
          · exact loaded.routes _ route (.inl mem)

theorem Loaded.claimed_answer (loaded : Loaded x rows snap) (tidy : Normal host)
    (read : r.parsed.or (parsePublicSiteRequestAuthority x r.host) = some host)
    (claims : Claims rows listenerID host site) (ok : matchPublicRouteInSnapshot x snap listenerID r = .ok answer) :
    OfSite rows site answer := by
  obtain ⟨_,holds,rfl⟩ := claims
  obtain ⟨_,_,same,_,resolved⟩ := loaded.resolved tidy holds
  cases known : snap.listeners listenerID with
  | none =>
    rw [matchPublicRouteInSnapshot,known] at ok
    cases ok
  | some =>
    have managed : snap.siteHostsByListener listenerID ≠ [] ∨ snap.siteBindingsByListener listenerID ≠ [] ∨
        (snap.defaultSiteByListener listenerID).isSome := by
      by_contra none
      simp only [not_or,not_not,Bool.not_eq_true,Option.isSome_eq_false_iff,Option.isNone_iff_eq_none] at none
      simp only [matchPublicSiteForListener,none.1,none.2.2,matchPublicSiteHost,find?_nil,Option.map_none] at resolved
      cases resolved
    rw [matchPublicRouteInSnapshot,known] at ok
    dsimp only at ok
    rw [if_pos managed,read] at ok
    simp only [resolved] at ok
    exact same ▸ loaded.matchSite_ofSite ok

end Claimed

def Rearranged (rows other : Rows) : Prop :=
  rows.sites.Perm other.sites ∧ rows.hosts.Perm other.hosts ∧ rows.bindings.Perm other.bindings

theorem Rearranged.holds {other : Rows} (same : Rearranged rows other) (listenerID : Nat) (host : Bytes)
    (entry : SiteHost) : Holds rows listenerID host entry ↔ Holds other listenerID host entry := by
  obtain ⟨sites,hosts,bindings⟩ := same
  have named (site : Nat) : Named rows listenerID site ↔ Named other listenerID site := by
    simp only [Named,sites.mem_iff,bindings.mem_iff]
  constructor
  · rintro (⟨mem,name,same⟩ | ⟨suffix,mem,name,marked,covers,unowned⟩)
    · exact .exact (hosts.mem_iff.mp mem) ((named _).mp name) same
    · exact .wildcard suffix (hosts.mem_iff.mp mem) ((named _).mp name) marked covers
        fun host mem name => unowned host (hosts.mem_iff.mpr mem) ((named _).mpr name)
  · rintro (⟨mem,name,same⟩ | ⟨suffix,mem,name,marked,covers,unowned⟩)
    · exact .exact (hosts.mem_iff.mpr mem) ((named _).mpr name) same
    · exact .wildcard suffix (hosts.mem_iff.mpr mem) ((named _).mpr name) marked covers
        fun host mem name => unowned host (hosts.mem_iff.mp mem) ((named _).mp name)

/-- The site the matcher finds for a host is the one that claims it, in whatever order the rows stand, and
a claimed host is answered by that site alone. -/
theorem site_isolation (x : Lexicon) {rows : Rows} {snap : Snapshot} (loaded : snapshotFromPublicRows x rows = some snap)
    (listenerID : Nat) (r : Request) {authority host : Bytes} (read : parsePublicSiteRequestAuthority x authority = some host)
    (context : (r.parsed = none ∧ r.host = authority) ∨ r.parsed = some host) :
    (∀ site, (matchPublicSiteHost x (snap.siteHostsByListener listenerID) host).map (·.siteID) = some site ↔
      Claims rows listenerID host site) ∧
    (∀ site answer, Claims rows listenerID host site → matchPublicRouteInSnapshot x snap listenerID r = .ok answer →
      OfSite rows site answer) ∧
    ∀ other snap', Rearranged rows other → snapshotFromPublicRows x other = some snap' →
      matchPublicSiteHost x (snap'.siteHostsByListener listenerID) host =
        matchPublicSiteHost x (snap.siteHostsByListener listenerID) host := by
  have spec := loaded_spec loaded
  obtain ⟨_,normal⟩ := authority_hostname read
  have tidy := (hostname_clean normal).normal
  refine ⟨?_,?_,?_⟩
  · intro site
    simp only [Option.map_eq_some_iff,spec.matched_iff tidy,Claims]
  · intro _ _
    apply spec.claimed_answer tidy
    rcases context with ⟨absent,rfl⟩ | given
    · rw [absent,Option.none_or,read]
    · rw [given,Option.some_or]
  · intro _ _ same loaded'
    apply Option.ext
    intro _
    rw [spec.matched_iff tidy,(loaded_spec loaded').matched_iff tidy,same.holds]

def exampleLexicon : Lexicon := ⟨some,id⟩

/-- A wildcard of one site around an exact name of another, with a Default Site and a standalone route. -/
def exampleRows : Rows where
  listeners := [⟨1,8443,.https⟩]
  sites := [⟨1,true,true,false,text "example.test"⟩,⟨2,true,true,false,text "app.example.test"⟩,⟨3,true,true,true,[]⟩]
  hosts := [⟨1,text "*.example.test",false,.serve⟩,⟨1,text "example.test",true,.serve⟩,⟨2,text "app.example.test",true,.serve⟩]
  bindings := [⟨1,1,.serve,0,[]⟩,⟨2,1,.serve,0,[]⟩,⟨3,1,.serve,0,[]⟩]
  routes := [⟨1,0,1,10,[],[],false,true⟩,⟨2,0,2,10,[],text "/",false,true⟩,⟨3,0,3,10,[],[],true,true⟩,⟨4,1,0,1,[],[],false,true⟩]
  sites_key := by decide
  bindings_key := by decide
  hosts_key := by decide +kernel
  positive := by decide

def exampleRequest (host : String) : Request := ⟨text host,none,text "/"⟩

theorem site_isolation_example : ∃ snap answer, snapshotFromPublicRows exampleLexicon exampleRows = some snap ∧
      matchPublicRouteInSnapshot exampleLexicon snap 1 (exampleRequest "App.Example.Test.:8443") = .ok answer ∧
      OfSite exampleRows 2 answer ∧ ¬ OfSite exampleRows 1 answer := by
  have run : (snapshotFromPublicRows exampleLexicon exampleRows).map (fun snap =>
      (matchPublicSiteHost exampleLexicon (snap.siteHostsByListener 1) (text "app.example.test") |>.map (·.siteID),
        matchPublicRouteInSnapshot exampleLexicon snap 1 (exampleRequest "App.Example.Test.:8443"))) =
      some (some 2,.ok (.route ⟨2,0,2,10,[],text "/",false,true⟩ false)) := by decide +kernel
  obtain ⟨snap,loaded,answered⟩ := Option.map_eq_some_iff.mp run
  obtain ⟨found,ok⟩ := Prod.mk.inj answered
  have read : parsePublicSiteRequestAuthority exampleLexicon (text "App.Example.Test.:8443") = some (text "app.example.test") := by
    decide +kernel
  have isolated := site_isolation exampleLexicon loaded 1 (exampleRequest "App.Example.Test.:8443") read (.inl ⟨rfl,rfl⟩)
  exact ⟨snap,_,loaded,ok,isolated.2.1 2 _ ((isolated.1 2).mp found) ok,by simp [OfSite]⟩

end P2pstream.SiteIsolation
