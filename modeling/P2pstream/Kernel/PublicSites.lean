import P2pstream.Library.AddressText
import P2pstream.Library.Headers

/-! Public sites: the normal form of hostnames, the site part of `snapshotFromPublicRows`, and
`matchPublicRouteInSnapshot`. Identifiers in use are positive.
-/
namespace P2pstream.Kernel.PublicSites
open Library.Text Library.AddressText
open Library.Encoding (Bytes text)
open Library.Headers (lower isLower dash)

/-- What comes from elsewhere: `idna.Lookup.ToASCII`, and `strings.ToLower` on text that is not
ASCII. -/
structure Lexicon where
  toASCII : Bytes → Option Bytes
  unicodeLower : Bytes → Bytes

def star : UInt8 := 0x2a

def wildcardMark : Bytes := [star,dot]

def Lexicon.toLower (x : Lexicon) (value : Bytes) : Bytes :=
  if value.all (· < 0x80) then lower value else x.unicodeLower value

/-- `strings.TrimSuffix(value, ".")`. -/
def trimDot (value : Bytes) : Bytes := if value.getLast? = some dot then value.dropLast else value

def labelByte (byte : UInt8) : Bool := isLower byte || isDigit byte || byte = dash

def validLabel (label : Bytes) : Bool :=
  label ≠ [] && label.length ≤ 63 && label.head? ≠ some dash && label.getLast? ≠ some dash && label.all labelByte

def validPublicSiteDNSName (value : Bytes) : Bool :=
  2 ≤ (value.splitOn dot).length && (value.splitOn dot).all validLabel

variable (x : Lexicon)

def normalizePublicSiteHostnamePattern (value : Bytes) : Option Bytes := do
  let value := trimDot (trimSpace (x.toLower value))
  guard (value ≠ [])
  let wildcard := wildcardMark.isPrefixOf value
  let value := if wildcard then value.drop 2 else value
  guard (star ∉ value ∧ containsAny (text "/\\@[] ") value = false)
  match parseAddr value with
  | some address => do
    guard (address.zone = [] ∧ wildcard = false)
    pure (formatAddr address)
  | none => do
    let name ← x.toASCII value
    guard (name.length ≤ 253 ∧ validPublicSiteDNSName name)
    if wildcard then do
      guard (dot ∈ name)
      pure (wildcardMark ++ name)
    else pure name

def normalizePublicSiteRequestDNSName (value : Bytes) : Option Bytes := do
  guard (value ≠ [] ∧ value = trimSpace value ∧ star ∉ value)
  let value := trimDot (x.toLower value)
  guard (value.getLast? ≠ some dot)
  let name ← x.toASCII value
  guard (name ≠ [] ∧ name.length ≤ 253 ∧ (name.splitOn dot).all validLabel)
  pure name

def normalizePublicSiteRequestHostname (host : Bytes) : Option Bytes := do
  guard (host ≠ [] ∧ host = trimSpace host ∧ star ∉ host)
  let host := x.toLower host
  match parseAddr host with
  | some address => do
    guard (address.zone = [])
    pure (formatAddr address)
  | none => normalizePublicSiteRequestDNSName x host

def validPublicAuthorityPort (value : Bytes) : Bool := (readDecimal value).any fun port => 0 < port && port ≤ 65535

def parsePublicSiteRequestAuthority (authority : Bytes) : Option Bytes := do
  guard (authority ≠ [] ∧ authority = trimSpace authority ∧ containsAny (text "*/\\@,\t\r\n") authority = false)
  if authority.head? = some openBracket then do
    let (front,rest) ← cut closeBracket authority
    guard (rest = [] ∨ (rest.head? = some colon ∧ validPublicAuthorityPort rest.tail))
    let address ← parseAddr front.tail
    guard (address.is6 ∧ address.zone = [])
    normalizePublicSiteRequestHostname x front.tail
  else match authority.count colon with
    | 0 => normalizePublicSiteRequestHostname x authority
    | 1 => do
      let (host,port) ← cut colon authority
      guard (validPublicAuthorityPort port)
      normalizePublicSiteRequestHostname x host
    | _ => none

/-- `normalizeHostPattern`, which the matchers also apply to hostnames. -/
def normalizeHostPattern (pattern : Bytes) : Bytes := trimDot (x.toLower (trimSpace pattern))

def strictPublicSiteHostMatches (hostname pattern : Bytes) : Bool :=
  let hostname := normalizeHostPattern x hostname
  let pattern := normalizeHostPattern x pattern
  if wildcardMark.isPrefixOf pattern then
    let suffix := dot :: pattern.drop 2
    let label := hostname.take (hostname.length - suffix.length)
    suffix.isSuffixOf hostname && label ≠ [] && dot ∉ label
  else hostname = pattern

inductive Protocol where
  | http | https
  deriving DecidableEq

inductive HostBehavior where
  | serve | redirect
  deriving DecidableEq

inductive ListenerBehavior where
  | serve | redirectHTTPS
  deriving DecidableEq

structure Listener where
  id : Nat
  port : Nat
  protocol : Protocol
  deriving DecidableEq

structure Site where
  id : Nat
  enabled : Bool
  published : Bool
  defaultSite : Bool
  canonicalHostname : Bytes
  deriving DecidableEq

structure SiteHost where
  siteID : Nat
  hostnamePattern : Bytes
  primary : Bool
  behavior : HostBehavior
  deriving DecidableEq

structure Binding where
  siteID : Nat
  listenerID : Nat
  behavior : ListenerBehavior
  redirectListenerID : Nat
  redirectHostname : Bytes
  deriving DecidableEq

/-- A standalone route has site zero, a route of a site has listener zero. -/
structure Route where
  id : Nat
  listenerID : Nat
  siteID : Nat
  priority : Int
  hostPattern : Bytes
  pathPrefix : Bytes
  isDefault : Bool
  enabled : Bool
  deriving DecidableEq

structure Rows where
  listeners : List Listener
  sites : List Site
  hosts : List SiteHost
  bindings : List Binding
  routes : List Route
  sites_key : (sites.map (·.id)).Nodup
  bindings_key : (bindings.map fun b => (b.siteID,b.listenerID)).Nodup
  hosts_key : (hosts.map fun h => (h.siteID,h.hostnamePattern)).Nodup
  positive : (∀ site ∈ sites, 0 < site.id) ∧ ∀ route ∈ routes, 0 < route.id

namespace Rows

variable (rows : Rows)

def site (id : Nat) : Option Site := rows.sites.find? (·.id = id)

def listener (id : Nat) : Option Listener := rows.listeners.find? (·.id = id)

def hostsOf (id : Nat) : List SiteHost := rows.hosts.filter (·.siteID = id)

/-- The bindings of published sites at a listener, named or default ones. -/
def published (defaultSite : Bool) (listenerID : Nat) : List Binding :=
  rows.bindings.filter fun b => b.listenerID = listenerID &&
    (rows.site b.siteID).any fun site => site.published && site.defaultSite = defaultSite

end Rows

structure Snapshot where
  listeners : Nat → Option Listener
  sites : Nat → Option Site
  siteHostsByListener : Nat → List SiteHost
  siteBindingsByListener : Nat → List Binding
  defaultSiteByListener : Nat → Option Binding
  routesBySite : Nat → List Route
  routesByListener : Nat → List Route

def maxPublicSiteHosts : Nat := 64

def sortPublicRoutes (routes : List Route) : List Route :=
  routes.insertionSort fun a b => a.priority < b.priority ∨ (a.priority = b.priority ∧ a.id ≤ b.id)

def storedCanonically (host : SiteHost) : Bool :=
  normalizePublicSiteHostnamePattern x host.hostnamePattern = some host.hostnamePattern &&
    (!host.primary || (host.behavior = .serve && !wildcardMark.isPrefixOf host.hostnamePattern))

/-- The site part of the loader; a configuration that breaks one of its checks has no snapshot. -/
def snapshotFromPublicRows (rows : Rows) : Option Snapshot := do
  guard (∀ host ∈ rows.hosts, (rows.site host.siteID).isSome ∧ storedCanonically x host)
  guard (∀ b ∈ rows.bindings, (rows.site b.siteID).isSome ∧ (rows.listener b.listenerID).isSome)
  guard (∀ b ∈ rows.bindings, ∀ first ∈ rows.published true b.listenerID, ∀ second ∈ rows.published true b.listenerID,
    first.siteID = second.siteID)
  guard (∀ b ∈ rows.bindings, ∀ first ∈ rows.published false b.listenerID,
    0 < (rows.hostsOf first.siteID).length ∧ (rows.hostsOf first.siteID).length ≤ maxPublicSiteHosts ∧
      ∀ second ∈ rows.published false b.listenerID, ∀ host ∈ rows.hostsOf first.siteID,
        ∀ other ∈ rows.hostsOf second.siteID, host.hostnamePattern = other.hostnamePattern → first.siteID = second.siteID)
  guard (∀ site ∈ rows.sites, site.published → site.defaultSite → rows.hostsOf site.id = [])
  pure {
    listeners := rows.listener
    sites := rows.site
    siteHostsByListener := fun id => (rows.published false id).flatMap fun b => rows.hostsOf b.siteID
    siteBindingsByListener := fun id => rows.bindings.filter fun b => b.listenerID = id &&
      (rows.site b.siteID).any (·.published)
    defaultSiteByListener := fun id => (rows.published true id).getLast?
    routesBySite := fun id => sortPublicRoutes (rows.routes.filter fun r => r.siteID = id && r.siteID ≠ 0)
    routesByListener := fun id => sortPublicRoutes (rows.routes.filter fun r => r.listenerID = id && r.siteID = 0) }

def matchPublicSiteHost (hosts : List SiteHost) (host : Bytes) : Option SiteHost :=
  match hosts.find? (·.hostnamePattern = host) with
  | some found => some found
  | none => hosts.find? fun entry => strictPublicSiteHostMatches x host entry.hostnamePattern

def matchPublicSiteForListener (snap : Snapshot) (listenerID : Nat) (host : Bytes) : Option (SiteHost × Binding) :=
  match matchPublicSiteHost x (snap.siteHostsByListener listenerID) host with
  | some found =>
    match (snap.siteBindingsByListener listenerID).find? (·.siteID = found.siteID) with
    | some binding => some (found,binding)
    | none => some (found,⟨found.siteID,listenerID,.serve,0,[]⟩)
  | none => (snap.defaultSiteByListener listenerID).map fun binding => (⟨binding.siteID,[],false,.serve⟩,binding)

/-- A redirect that no row holds: the listener it leads to and the host and port it names. -/
structure Redirect where
  siteID : Nat
  toward : Listener
  host : Bytes
  port : Option Nat
  deriving DecidableEq

def publicSiteRedirectRoute (listener : Listener) (site : Site) : Redirect where
  siteID := site.id
  toward := listener
  host := site.canonicalHostname
  port := if (listener.protocol = .https ∧ listener.port = 443) ∨ (listener.protocol = .http ∧ listener.port = 80) ∨
    listener.port = 0 then none else some listener.port

def publicSiteListenerRedirectRoute (target : Listener) (site : Site) (binding : Binding) (hostBinding : SiteHost)
    (requestHost : Bytes) : Redirect where
  siteID := site.id
  toward := target
  host :=
    if binding.redirectHostname ≠ [] then binding.redirectHostname
    else if hostBinding.behavior = .redirect ∧ site.canonicalHostname ≠ [] then site.canonicalHostname
    else requestHost
  port := if 0 < target.port ∧ target.port ≠ 443 then some target.port else none

inductive Answer where
  | route (route : Route) (isDefault : Bool)
  | redirect (redirect : Redirect)
  deriving DecidableEq

inductive MatchError where
  | listenerNotFound | malformedAuthority | noRouteAvailable
  deriving DecidableEq

/-- The parsed authority comes with the request when the pipeline has validated it. -/
structure Request where
  host : Bytes
  parsed : Option Bytes
  path : Bytes
  deriving DecidableEq

def pathPrefixMatches (requestPath pathPrefix : Bytes) : Bool :=
  let pathPrefix := trimSpace pathPrefix
  let requestPath := if requestPath = [] then [slash] else requestPath
  pathPrefix = [] || pathPrefix = [slash] || (pathPrefix.isPrefixOf requestPath &&
    (requestPath.length = pathPrefix.length || pathPrefix.getLast? = some slash ||
      requestPath[pathPrefix.length]? = some slash))

def hostMatchesPattern (host pattern : Bytes) : Bool :=
  let host := normalizeHostPattern x host
  let pattern := normalizeHostPattern x pattern
  if pattern = [] then true
  else if wildcardMark.isPrefixOf pattern then
    pattern.tail.isSuffixOf host && (pattern.drop 2).length < host.length
  else host = pattern

def brackets : Bytes := [openBracket,closeBracket]

def normalizeBareRequestHost (host : Bytes) : Bytes :=
  let host := trimSpace (x.toLower (trimSet brackets host))
  if colon ∈ host then host else trimDot host

def normalizeRequestHost (host : Bytes) : Bytes :=
  let host := trimSpace (x.toLower host)
  match splitHostPort host with
  | .ok (bare,_) => normalizeBareRequestHost x bare
  | .error _ =>
    if host.head? = some openBracket then normalizeBareRequestHost x (trimSet brackets host)
    else if host.count colon = 1 then normalizeBareRequestHost x (host.takeWhile (· ≠ colon))
    else normalizeBareRequestHost x host

def selectRoute (eligible applies : Route → Bool) (routes : List Route) : Except MatchError Answer :=
  match (routes.filter eligible).find? fun route => !route.isDefault && applies route with
  | some route => .ok (.route route false)
  | none =>
    match (routes.filter eligible).find? (·.isDefault) with
    | some route => .ok (.route route true)
    | none => .error .noRouteAvailable

def matchSite (snap : Snapshot) (listener : Listener) (hostBinding : SiteHost) (binding : Binding) (host path : Bytes) :
    Except MatchError Answer :=
  match snap.sites binding.siteID with
  | none => .error .noRouteAvailable
  | some site =>
    if site.enabled = false then .error .noRouteAvailable
    else if binding.behavior = .redirectHTTPS then
      match snap.listeners binding.redirectListenerID with
      | none => .error .noRouteAvailable
      | some target => .ok (.redirect (publicSiteListenerRedirectRoute target site binding hostBinding host))
    else if hostBinding.behavior = .redirect ∧ hostBinding.primary = false then
      .ok (.redirect (publicSiteRedirectRoute listener site))
    else
      let own := snap.routesBySite site.id
      selectRoute (fun route => route.enabled && route.siteID = site.id)
        (fun route => route.pathPrefix = [] || pathPrefixMatches path route.pathPrefix)
        (if own = [] then snap.routesByListener listener.id else own)

def matchStandalone (snap : Snapshot) (listenerID : Nat) (r : Request) : Except MatchError Answer :=
  selectRoute (fun route => route.enabled && route.siteID = 0)
    (fun route => (route.hostPattern = [] || hostMatchesPattern x (normalizeRequestHost x r.host) route.hostPattern) &&
      (route.pathPrefix = [] || pathPrefixMatches r.path route.pathPrefix)) (snap.routesByListener listenerID)

def matchPublicRouteInSnapshot (snap : Snapshot) (listenerID : Nat) (r : Request) : Except MatchError Answer :=
  match snap.listeners listenerID with
  | none => .error .listenerNotFound
  | some listener =>
    if snap.siteHostsByListener listenerID ≠ [] ∨ snap.siteBindingsByListener listenerID ≠ [] ∨
        (snap.defaultSiteByListener listenerID).isSome then
      match r.parsed.or (parsePublicSiteRequestAuthority x r.host) with
      | none => .error .malformedAuthority
      | some host =>
        match matchPublicSiteForListener x snap listenerID host with
        | some (hostBinding,binding) => matchSite snap listener hostBinding binding host r.path
        | none => matchStandalone x snap listenerID r
    else matchStandalone x snap listenerID r

end P2pstream.Kernel.PublicSites
