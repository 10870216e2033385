import P2pstream.Library.AddressText
import P2pstream.Library.Headers

/-! Who a request comes from: the peer of the connection, or the client that a trusted proxy
names in a header.
-/
namespace P2pstream.Kernel.TrustedProxies
open Library.Encoding (Bytes text)
open Library.Text Library.Addresses Library.AddressText
open Library.Headers (Header canonicalKey validFieldName)

def defaultTrustedProxyHeaderBytes : Int := 8192
def defaultTrustedProxyMaxHops : Int := 32

def comma : UInt8 := 0x2c

inductive TrustedProxyHeaderMode where
  | singleIP
  | trustedChain
  | other (mode : String)
  deriving DecidableEq

/-- A configured source; `none` is an invalid prefix. -/
structure TrustedProxySource where
  name : Bytes
  enabled : Bool
  prefixes : List (Option Prefix)
  headerName : Bytes
  headerMode : TrustedProxyHeaderMode
  deriving DecidableEq

structure ClientIdentityResolverOptions where
  maxHeaderBytes : Int := 0
  maxHops : Int := 0

inductive ClientIdentityUnknownReason where
  | invalidPeer
  | missingHeader
  | malformedHeader
  | noUntrustedHop
  | conflictingSource
  deriving DecidableEq

structure ClientIdentity where
  peer : Option Addr := none
  resolved : Option Addr := none
  unknown : Bool := false
  direct : Bool := false
  source : Bytes := []
  matchedSources : List Bytes := []
  unknownReason : Option ClientIdentityUnknownReason := none
  deriving DecidableEq

structure TrustedProxyResolverSource where
  name : Bytes
  prefixes : List Prefix
  headerName : Bytes
  headerMode : TrustedProxyHeaderMode
  chainTrusted : List Prefix := []
  deriving DecidableEq

structure ClientIdentityResolver where
  sources : List TrustedProxyResolverSource
  headerNames : List Bytes
  maxHeaderBytes : Int
  maxHops : Int

inductive ResolverError where
  | headerByteLimit
  | hopLimit
  | noName
  | duplicateName (name : Bytes)
  | invalidHeaderName (name : Bytes)
  | invalidHeaderMode (name : Bytes)
  | noPrefixes (name : Bytes)
  | invalidPrefix (name : Bytes)
  deriving DecidableEq

def prefixKey (p : Prefix) : Nat × Nat × Nat :=
  match p with
  | .v4 addr bits => (32,addr.toNat,bits)
  | .v6 addr bits => (128,addr.toNat,bits)

def prefixLe (left right : Prefix) : Prop :=
  (prefixKey left).1 < (prefixKey right).1 ∨ ((prefixKey left).1 = (prefixKey right).1 ∧
    ((prefixKey left).2.1 < (prefixKey right).2.1 ∨
      ((prefixKey left).2.1 = (prefixKey right).2.1 ∧ (prefixKey left).2.2 ≤ (prefixKey right).2.2)))

instance : DecidableRel prefixLe := fun _ _ => inferInstanceAs (Decidable (_ ∨ _))

def deduplicatePrefixes (input : List Prefix) : List Prefix :=
  (input.map Prefix.masked).dedup.insertionSort prefixLe

/-- The prefix of unmapped addresses that a configured prefix stands for. -/
def normalizeTrustedProxyPrefix (p : Option Prefix) : Option Prefix := do
  let p ← p
  let bits : Int := if p.addr.is4In6 then p.bits - 96 else p.bits
  (Prefix.from? p.addr.unmap bits).map Prefix.masked

def normalizeTrustedProxyPrefixes (input : List (Option Prefix)) : Option (List Prefix) :=
  (input.mapM normalizeTrustedProxyPrefix).map deduplicatePrefixes

/-- The checks on one source, given the names of the sources before it. -/
def resolverSource (seen : List Bytes) (source : TrustedProxySource) : Except ResolverError TrustedProxyResolverSource :=
  let headerName := trimSpace source.headerName
  let name := trimSpace source.name
  if name = [] then .error .noName
  else if name ∈ seen then .error (.duplicateName name)
  else if ¬ validFieldName headerName then .error (.invalidHeaderName name)
  else if source.headerMode ≠ .singleIP ∧ source.headerMode ≠ .trustedChain then .error (.invalidHeaderMode name)
  else if source.prefixes = [] then .error (.noPrefixes name)
  else match normalizeTrustedProxyPrefixes source.prefixes with
    | none => .error (.invalidPrefix name)
    | some prefixes => .ok { name, prefixes, headerName := canonicalKey headerName, headerMode := source.headerMode }

def resolverSources : List TrustedProxySource → List TrustedProxyResolverSource →
    Except ResolverError (List TrustedProxyResolverSource)
  | [],built => .ok built
  | source :: rest,built =>
    if ¬ source.enabled then resolverSources rest built
    else match resolverSource (built.map TrustedProxyResolverSource.name) source with
      | .error problem => .error problem
      | .ok next => resolverSources rest (built ++ [next])

/-- The prefixes of all sources that read a chain from the same header. -/
def chainTrustDomain (sources : List TrustedProxyResolverSource) (headerName : Bytes) : List Prefix :=
  (sources.filter fun source => source.headerMode = .trustedChain ∧ source.headerName = headerName).flatMap
    TrustedProxyResolverSource.prefixes

def withChainTrust (sources : List TrustedProxyResolverSource) (source : TrustedProxyResolverSource) :
    TrustedProxyResolverSource :=
  if source.headerMode = .trustedChain then
    { source with chainTrusted := deduplicatePrefixes (chainTrustDomain sources source.headerName) }
  else source

def configuredHeaderNames (sources : List TrustedProxySource) : List Bytes :=
  ((sources.map fun source => trimSpace source.headerName).filter validFieldName |>.map canonicalKey).dedup.insertionSort
    (· ≤ ·)

def newClientIdentityResolver (sources : List TrustedProxySource) (options : ClientIdentityResolverOptions) :
    Except ResolverError ClientIdentityResolver :=
  let maxHeaderBytes := if options.maxHeaderBytes = 0 then defaultTrustedProxyHeaderBytes else options.maxHeaderBytes
  let maxHops := if options.maxHops = 0 then defaultTrustedProxyMaxHops else options.maxHops
  if maxHeaderBytes < 1 then .error .headerByteLimit
  else if maxHops < 1 then .error .hopLimit
  else match resolverSources sources [] with
    | .error problem => .error problem
    | .ok built => .ok {
        sources := built.map (withChainTrust built), headerNames := configuredHeaderNames sources, maxHeaderBytes, maxHops }

structure Request where
  remoteAddr : Bytes
  header : Header

def peerAddrFromRequest (req : Request) : Option Addr :=
  let value := trimSpace req.remoteAddr
  if value = [] then none
  else match parseAddrPort value with
    | some addr => if addr.zone = [] then some addr.unmap else none
    | none =>
      match parseAddr value with
      | none => none
      | some addr => if addr.zone = [] then some addr.unmap else none

def parseBareIP (value : Bytes) : Option Addr :=
  let value := trimSet (text " \t") value
  if value = [] ∨ containsAny (text "[]") value then none
  else match parseAddr value with
    | none => none
    | some addr => if addr.zone = [] then some addr.unmap else none

def prefixesContain (prefixes : List Prefix) (addr : Addr) : Bool := prefixes.any (·.contains addr.unmap)

def readHops (maxHops : Int) : List Bytes → List Addr → Option (List Addr)
  | [],hops => some hops
  | rawHop :: rest,hops =>
    if hops.length = maxHops then none
    else match parseBareIP rawHop with
      | none => none
      | some hop => readHops maxHops rest (hops ++ [hop])

namespace ClientIdentityResolver

def resolveSource (r : ClientIdentityResolver) (header : Header) (source : TrustedProxyResolverSource) :
    Except ClientIdentityUnknownReason Addr :=
  let values := Header.values header source.headerName
  if values = [] then .error .missingHeader
  else if r.maxHeaderBytes < (values.map List.length).sum + (values.length - 1) then .error .malformedHeader
  else match source.headerMode with
    | .singleIP =>
      match values with
      | [value] =>
        if comma ∈ value then .error .malformedHeader
        else match parseBareIP value with
          | none => .error .malformedHeader
          | some addr => .ok addr
      | _ => .error .malformedHeader
    | .trustedChain =>
      match readHops r.maxHops (values.flatMap (·.splitOn comma)) [] with
      | none => .error .malformedHeader
      | some hops =>
        match hops.reverse.find? fun hop => ¬ prefixesContain source.chainTrusted hop with
        | none => .error .noUntrustedHop
        | some hop => .ok hop
    | .other _ => .error .malformedHeader

def directClientIdentity (peer : Addr) : ClientIdentity :=
  { peer := some peer, resolved := some peer, direct := true, source := text "direct" }

def joinNames (names : List Bytes) : Bytes := (text "+").intercalate names

def unresolvedTrustedIdentity (peer : Addr) (names : List Bytes) (reason : ClientIdentityUnknownReason) : ClientIdentity :=
  let names := names.insertionSort (· ≤ ·)
  { peer := some peer, unknown := true, source := joinNames names, matchedSources := names, unknownReason := some reason }

def agree (r : ClientIdentityResolver) (header : Header) :
    List TrustedProxyResolverSource → Option Addr → Except ClientIdentityUnknownReason (Option Addr)
  | [],resolved => .ok resolved
  | source :: rest,resolved =>
    match r.resolveSource header source with
    | .error reason => .error reason
    | .ok candidate =>
      if resolved.isSome ∧ resolved ≠ some candidate then .error .conflictingSource
      else r.agree header rest (some candidate)

def resolve (r : ClientIdentityResolver) (req : Request) : ClientIdentity :=
  match peerAddrFromRequest req with
  | none => { unknown := true, unknownReason := some .invalidPeer }
  | some peer =>
    let matching := r.sources.filter fun source => prefixesContain source.prefixes peer
    if matching = [] then directClientIdentity peer
    else
      let names := (matching.map TrustedProxyResolverSource.name).insertionSort (· ≤ ·)
      match r.agree req.header matching none with
      | .error reason => unresolvedTrustedIdentity peer names reason
      | .ok resolved => { peer := some peer, resolved, source := joinNames names, matchedSources := names }

end ClientIdentityResolver

end P2pstream.Kernel.TrustedProxies
