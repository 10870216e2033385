import P2pstream.Kernel.TrustedProxies

/-! Access control of public routes: who may pass, and which identity headers the upstream
gets to see.
-/
namespace P2pstream.Kernel.PublicAccess
open Library.Encoding (Bytes text)
open Library Library.Text Library.AddressText
open Library.Headers (Header canonicalKey validFieldName lower)
open Kernel.TrustedProxies (ClientIdentityResolver comma)

def maxPublicForwardAuthBodyBytes : Nat := 65536
def maxPublicForwardAuthHeaderBytes : Nat := 65536
def maxUpstreamHeaderValueBytes : Nat := 8192
def maxPublicAccessHeaders : Nat := 16
def minPublicAccessTimeoutMillis : Int := 100
def maxPublicAccessTimeoutMillis : Int := 30000

inductive PublicAccessProviderType where
  | forwardAuth
  | localAuth
  deriving DecidableEq

inductive PublicAccessLocalAuthMode where
  | form
  | basic
  | both
  deriving DecidableEq

structure PublicAccessUser where
  username : Bytes
  enabled : Bool := true
  groups : List Bytes := []
  deriving DecidableEq

/-- `forwardAuthURL` is present once the forward-auth client is. -/
structure PublicAccessProvider where
  id : Int
  providerType : PublicAccessProviderType
  enabled : Bool
  subjectHeader : Bytes
  userHeader : Bytes
  emailHeader : Bytes
  groupsHeader : Bytes
  forwardedHeaders : List Bytes := []
  forwardAuthURL : Option Bytes := none
  localAuthMode : PublicAccessLocalAuthMode := .form
  localAuthAllowedHosts : List Bytes := []
  localUsers : Table Bytes PublicAccessUser := ∅

inductive GroupMatch where
  | any
  | all
  deriving DecidableEq

structure PublicAccessPolicy where
  id : Int
  name : Bytes
  providerID : Int
  enabled : Bool
  requiredGroups : List Bytes
  groupMatch : GroupMatch
  deriving DecidableEq

structure PublicAccessPrincipal where
  providerID : Int := 0
  subject : Bytes := []
  username : Bytes := []
  email : Bytes := []
  groups : List Bytes := []
  headerNames : List Bytes := []
  forwardedHeader : Header := ∅
  stripAuthorization : Bool := false

structure PublicAccessProviderRow where
  id : Int
  providerType : Bytes
  enabled : Bool
  subjectHeader : Bytes
  userHeader : Bytes
  emailHeader : Bytes
  groupsHeader : Bytes
  forwardAuthUrl : Bytes
  forwardedHeadersJson : Bytes
  timeoutMillis : Int
  localAuth : Bytes

/-- What the loader leaves to others: URLs, JSON lists, and the settings of local
authentication. -/
structure ConfigPrimitives where
  parsePublicForwardAuthURL : Bytes → Except String Bytes
  publicAccessStringListFromJSON : Bytes → Except String (List Bytes)
  localAuthSettings : Bytes → Except String (PublicAccessLocalAuthMode × List Bytes)

def localPublicAccessForwardedHeaders : List Bytes :=
  [text "X-Auth-Request-Email",text "X-Auth-Request-Groups",text "X-Auth-Request-Preferred-Username",text "X-Auth-Request-User"]

def forbiddenForwardedHeaders : List Bytes :=
  [text "authorization",text "cookie",text "set-cookie",text "forwarded",text "host",text "connection",text "content-length",
    text "expect",text "keep-alive",text "proxy-authenticate",text "proxy-authorization",text "proxy-connection",text "te",
    text "trailer",text "transfer-encoding",text "upgrade",text "x-real-ip"]

def publicAccessForbiddenForwardedHeader (name : Bytes) : Bool :=
  let name := lower (trimSpace name)
  (text "x-forwarded-").isPrefixOf name || name ∈ forbiddenForwardedHeaders

def normalizeHeaders : List Bytes → List Bytes → Except String (List Bytes)
  | [],result => .ok result
  | value :: rest,result =>
    let value := trimSpace value
    if 128 < value.length ∨ ¬ validFieldName value then .error "invalid forwarded identity header"
    else if publicAccessForbiddenForwardedHeader (canonicalKey value) then .error "identity header cannot be forwarded"
    else if lower (canonicalKey value) ∈ result.map lower then normalizeHeaders rest result
    else normalizeHeaders rest (result ++ [canonicalKey value])

def byLower (left right : Bytes) : Prop := lower left ≤ lower right

instance : DecidableRel byLower := fun left right => inferInstanceAs (Decidable (lower left ≤ lower right))

def normalizePublicAccessHeaderList (values : List Bytes) : Except String (List Bytes) :=
  if maxPublicAccessHeaders < values.length then .error "at most 16 identity headers may be forwarded"
  else (normalizeHeaders values []).map (List.insertionSort byLower)

def normalizePublicAccessProviderType (value : Bytes) : Bytes := trimSpace (lower value)

def publicAccessProviderRowToConfig (t : ConfigPrimitives) (row : PublicAccessProviderRow) :
    Except String PublicAccessProvider :=
  let config (providerType : PublicAccessProviderType) : PublicAccessProvider :=
    { id := row.id, providerType, enabled := row.enabled, subjectHeader := canonicalKey row.subjectHeader
      userHeader := canonicalKey row.userHeader, emailHeader := canonicalKey row.emailHeader
      groupsHeader := canonicalKey row.groupsHeader }
  if normalizePublicAccessProviderType row.providerType = text "forward_auth" then do
    let url ← t.parsePublicForwardAuthURL row.forwardAuthUrl
    let headers ← t.publicAccessStringListFromJSON row.forwardedHeadersJson
    let headers ← normalizePublicAccessHeaderList headers
    if row.timeoutMillis < minPublicAccessTimeoutMillis ∨ maxPublicAccessTimeoutMillis < row.timeoutMillis then
      throw "timeout must be between 100 and 30000 milliseconds"
    else pure { config .forwardAuth with forwardAuthURL := some url, forwardedHeaders := headers }
  else if normalizePublicAccessProviderType row.providerType = text "local" then do
    let (mode,hosts) ← t.localAuthSettings row.localAuth
    pure { config .localAuth with
      forwardedHeaders := localPublicAccessForwardedHeaders, localAuthMode := mode, localAuthAllowedHosts := hosts }
  else throw "unsupported access provider type"

structure PublicProxySnapshot where
  accessProviders : Table Int PublicAccessProvider
  accessPolicies : Table Int PublicAccessPolicy
  accessHeaderNames : List Bytes
  clientIdentity : ClientIdentityResolver

def headerNamesOf (providers : List PublicAccessProvider) : List Bytes :=
  let names := ((providers.flatMap PublicAccessProvider.forwardedHeaders).map canonicalKey).filter (· ≠ [])
  let seen := names.foldl (fun (seen : Table Bytes Bytes) name => seen.insert (lower name) name) ∅
  (Table.values seen).insertionSort byLower

def publicAccessConfiguredHeaderNames (snap : PublicProxySnapshot) : List Bytes :=
  if snap.accessHeaderNames ≠ [] then snap.accessHeaderNames else headerNamesOf (Table.values snap.accessProviders)

def loadProviders (t : ConfigPrimitives) : List PublicAccessProviderRow → Table Int PublicAccessProvider →
    Except String (Table Int PublicAccessProvider)
  | [],loaded => .ok loaded
  | row :: rest,loaded => do
    let provider ← publicAccessProviderRowToConfig t row
    loadProviders t rest (loaded.insert provider.id provider)

def loadUsers : List (Int × PublicAccessUser) → Table Int PublicAccessProvider → Except String (Table Int PublicAccessProvider)
  | [],loaded => .ok loaded
  | (providerID,user) :: rest,loaded =>
    match loaded.lookup providerID with
    | none => .error "references a non-local provider"
    | some provider =>
      if provider.providerType ≠ .localAuth then .error "references a non-local provider"
      else if (provider.localUsers.lookup user.username).isSome then .error "has duplicate user"
      else loadUsers rest (loaded.insert providerID
        { provider with localUsers := provider.localUsers.insert user.username user })

def loadPolicies (providers : Table Int PublicAccessProvider) : List PublicAccessPolicy → Table Int PublicAccessPolicy →
    Except String (Table Int PublicAccessPolicy)
  | [],loaded => .ok loaded
  | policy :: rest,loaded =>
    if (providers.lookup policy.providerID).isNone then .error "references a missing provider"
    else loadPolicies providers rest (loaded.insert policy.id policy)

def snapshotFromPublicRows (t : ConfigPrimitives) (providers : List PublicAccessProviderRow)
    (users : List (Int × PublicAccessUser)) (policies : List PublicAccessPolicy) (clientIdentity : ClientIdentityResolver) :
    Except String PublicProxySnapshot := do
  let accessProviders ← loadProviders t providers ∅
  let accessProviders ← loadUsers users accessProviders
  let accessPolicies ← loadPolicies accessProviders policies ∅
  pure { accessProviders, accessPolicies, accessHeaderNames := headerNamesOf (Table.values accessProviders), clientIdentity }

structure RequestLine where
  method : Bytes
  host : Bytes
  uri : Bytes
  path : Bytes
  query : Table Bytes (List Bytes)

structure Request where
  line : RequestLine
  remoteAddr : Bytes
  header : Header

structure PublicListener where
  https : Bool
  port : Int
  deriving DecidableEq

structure PublicRoute where
  id : Int
  accessPolicyID : Int
  deriving DecidableEq

abbrev PublicRouteMatch := Except String (PublicRoute × PublicListener)

structure AuthRequest where
  url : Bytes
  header : Header

/-- `body` is its length, if it can be read. -/
structure AuthResponse where
  status : Int
  header : Header
  body : Option Nat

/-- Everything outside the access control: the authentication service, the stores behind
local authentication, and the texts made from a request line. -/
structure Environment where
  forwardAuth : PublicAccessProvider → AuthRequest → Option AuthResponse
  basic : PublicAccessProvider → (authorization : List Bytes) → (client : Bytes) → Option PublicAccessUser
  session : PublicAccessProvider → (cookies : List Bytes) → Except String (Option PublicAccessUser)
  hostAllowed : PublicAccessProvider → (host : Bytes) → Bool
  normalizeRequestHost : Bytes → Bytes
  publicAccessOriginalURL : RequestLine → PublicListener → Bytes
  withoutSessionCookie : (cookies : List Bytes) → List Bytes
  removeHopByHop : Header → Header

inductive AccessResult where
  | proceed (principal : Option PublicAccessPrincipal)
  | done (status : Int) (errorKind : String)

def addAll (h : Header) (name : Bytes) (values : List Bytes) : Header := values.foldl (fun h value => Header.add h name value) h

def removePublicManagementSessionCookie (e : Environment) (h : Header) : Header :=
  addAll (Header.del h (text "Cookie")) (text "Cookie") (e.withoutSessionCookie (Header.values h (text "Cookie")))

def forwardedProtoForPublicListener (listener : PublicListener) : Bytes := if listener.https then text "https" else text "http"

def forwardedPortForPublicListener (listener : PublicListener) (proto : Bytes) : Bytes :=
  if 0 < listener.port then itoa listener.port.toNat else if proto = text "https" then text "443" else text "80"

def publicAccessRequestClientIP (snap : PublicProxySnapshot) (r : Request) : Bytes :=
  ((snap.clientIdentity.resolve ⟨r.remoteAddr,r.header⟩).resolved.map formatAddr).getD []

def passedToForwardAuth : List Bytes := [text "Accept",text "Authorization",text "Cookie",text "User-Agent"]

def forwardAuthHeader (e : Environment) (snap : PublicProxySnapshot) (listener : PublicListener) (r : Request) : Header :=
  let copied := passedToForwardAuth.foldl (fun h name => addAll h name (Header.values r.header name)) ∅
  let proto := forwardedProtoForPublicListener listener
  let h := removePublicManagementSessionCookie e copied
  let h := Header.set h (text "X-Forwarded-Method") r.line.method
  let h := Header.set h (text "X-Forwarded-Uri") r.line.uri
  let h := Header.set h (text "X-Forwarded-Host") (e.normalizeRequestHost r.line.host)
  let h := Header.set h (text "X-Forwarded-Proto") proto
  let h := Header.set h (text "X-Forwarded-Port") (forwardedPortForPublicListener listener proto)
  let h := Header.set h (text "X-Original-Url") (e.publicAccessOriginalURL r.line listener)
  let h := Header.set h (text "X-Auth-Request-Redirect") (e.publicAccessOriginalURL r.line listener)
  let client := publicAccessRequestClientIP snap r
  if client = [] then h else Header.set (Header.set h (text "X-Forwarded-For") client) (text "X-Real-Ip") client

def publicAccessHeaderBytes (h : Header) : Nat :=
  (h.entries.map fun entry => (entry.2.map fun value => entry.1.length + value.length).sum).sum

def publicAccessGroupsFromHeader (values : List Bytes) : List Bytes :=
  (((values.flatMap (·.splitOn comma)).map trimSpace).filter fun group => group ≠ [] ∧ group.length ≤ 128).dedup.insertionSort
    (· ≤ ·)

def publicAccessPrincipalFromResponse (provider : PublicAccessProvider) (h : Header) : Option PublicAccessPrincipal :=
  if provider.forwardedHeaders.any fun name => (Header.values h name).any fun value => maxUpstreamHeaderValueBytes < value.length
  then none
  else some {
    providerID := provider.id
    subject := trimSpace (Header.get h provider.subjectHeader)
    username := trimSpace (Header.get h provider.userHeader)
    email := trimSpace (Header.get h provider.emailHeader)
    groups := publicAccessGroupsFromHeader (Header.values h provider.groupsHeader)
    headerNames := provider.forwardedHeaders
    forwardedHeader := provider.forwardedHeaders.foldl (fun forwarded name => addAll forwarded name (Header.values h name)) ∅ }

inductive AuthenticationResult where
  | granted (principal : PublicAccessPrincipal)
  | refused (status : Int) (errorKind : String)
  | failed

/-- The answer of the service as `writePublicForwardAuthResponse` passes it on. -/
def forwardAuthRefusal (status : Int) : AuthenticationResult :=
  if 500 ≤ status then .refused 503 "access_provider_error"
  else if 300 ≤ status ∧ status < 400 then .refused status "access_challenge"
  else if status = 401 then .refused status "access_unauthenticated"
  else .refused status "access_denied"

def checkPublicForwardAuth (e : Environment) (snap : PublicProxySnapshot) (provider : PublicAccessProvider) (url : Bytes)
    (listener : PublicListener) (r : Request) : AuthenticationResult :=
  match e.forwardAuth provider { url, header := forwardAuthHeader e snap listener r } with
  | none => .failed
  | some response =>
    if maxPublicForwardAuthHeaderBytes < publicAccessHeaderBytes response.header then .failed
    else if 200 ≤ response.status ∧ response.status < 300 then
      match publicAccessPrincipalFromResponse provider response.header with
      | none => .failed
      | some principal => .granted principal
    else match response.body with
      | none => .failed
      | some bytes => if maxPublicForwardAuthBodyBytes < bytes then .failed else forwardAuthRefusal response.status

def publicAccessPrincipalFromLocalUser (provider : PublicAccessProvider) (user : PublicAccessUser) : PublicAccessPrincipal :=
  let forwarded := Header.set ∅ (text "X-Auth-Request-User") user.username
  let forwarded := Header.set forwarded (text "X-Auth-Request-Preferred-Username") user.username
  let forwarded := if user.groups = [] then forwarded
    else Header.set forwarded (text "X-Auth-Request-Groups") ((text ", ").intercalate user.groups)
  { providerID := provider.id, subject := user.username, username := user.username, groups := user.groups
    forwardedHeader := forwarded }

def remoteAddrIP (remoteAddr : Bytes) : Bytes :=
  match splitHostPort remoteAddr with
  | .ok (host,_) => host
  | .error _ => trimSpace remoteAddr

def loginClient (snap : PublicProxySnapshot) (r : Request) : Bytes :=
  let client := publicAccessRequestClientIP snap r
  if client = [] then remoteAddrIP r.remoteAddr else client

def authenticatePublicLocalBasic (e : Environment) (snap : PublicProxySnapshot) (provider : PublicAccessProvider)
    (r : Request) : AuthenticationResult :=
  match e.basic provider (Header.values r.header (text "Authorization")) (loginClient snap r) with
  | none => .refused 401 "access_unauthenticated"
  | some user => .granted { publicAccessPrincipalFromLocalUser provider user with stripAuthorization := true }

def publicAccessRequestHasBasicAuthorization (r : Request) : Bool :=
  (Header.values r.header (text "Authorization")).any fun value => lower (value.take 6) = text "basic "

def publicAccessLoginQueryKey : Bytes := text "__p2pstream_access_login"
def publicAccessLogoutQueryKey : Bytes := text "__p2pstream_access_logout"

def localChallenge : AuthenticationResult := .refused 401 "access_unauthenticated"

def handlePublicLocalAccess (e : Environment) (snap : PublicProxySnapshot) (provider : PublicAccessProvider) (r : Request) :
    AuthenticationResult :=
  let logout := r.line.query.lookup publicAccessLogoutQueryKey
  let login := r.line.query.lookup publicAccessLoginQueryKey
  let formEnabled := provider.localAuthMode = .form ∨ provider.localAuthMode = .both
  let basicEnabled := provider.localAuthMode = .basic ∨ provider.localAuthMode = .both
  if ¬ e.hostAllowed provider (e.normalizeRequestHost r.line.host) then .refused 421 "access_host_denied"
  else if logout.isSome ∧ logout ≠ some [text "1"] then .refused 400 "access_logout_invalid"
  else if login.isSome ∧ login ≠ some [text "1"] then .refused 400 "access_login_invalid"
  else if logout.isSome ∧ login.isSome then .refused 400 "access_login_invalid"
  -- Signing in or out answers the request itself.
  else if logout.isSome then .refused 303 "access_logout"
  else if login.isSome then
    if formEnabled then .refused 303 "access_login" else .refused 404 "access_login_unavailable"
  else if basicEnabled ∧ publicAccessRequestHasBasicAuthorization r then authenticatePublicLocalBasic e snap provider r
  else
    let session : Except String (Option PublicAccessUser) :=
      if formEnabled then e.session provider (Header.values r.header (text "Cookie")) else .ok none
    match session with
    | .error _ => .failed
    | .ok (some user) => .granted (publicAccessPrincipalFromLocalUser provider user)
    | .ok none =>
      if provider.localAuthMode = .basic ∧ Header.values r.header (text "Authorization") ≠ [] then
        authenticatePublicLocalBasic e snap provider r
      else localChallenge

def publicAccessPolicyAllowsGroups (policy : PublicAccessPolicy) (groups : List Bytes) : Bool :=
  if policy.requiredGroups = [] then true
  else match policy.groupMatch with
    | .all => policy.requiredGroups.all (· ∈ groups)
    | .any => policy.requiredGroups.any (· ∈ groups)

def authenticate (e : Environment) (snap : PublicProxySnapshot) (provider : PublicAccessProvider) (listener : PublicListener)
    (r : Request) : AuthenticationResult :=
  match provider.providerType with
  | .forwardAuth =>
    match provider.forwardAuthURL with
    | none => .refused 503 "access_configuration_error"
    | some url => checkPublicForwardAuth e snap provider url listener r
  | .localAuth => handlePublicLocalAccess e snap provider r

def publicAccessControlStage (e : Environment) (snap : PublicProxySnapshot) (found : PublicRouteMatch) (r : Request) :
    AccessResult :=
  match found with
  | .error _ => .proceed none
  | .ok (route,listener) =>
    let trustedHeaderNames := publicAccessConfiguredHeaderNames snap
    if route.accessPolicyID ≤ 0 then
      .proceed (if trustedHeaderNames = [] then none else some { headerNames := trustedHeaderNames })
    else match snap.accessPolicies.lookup route.accessPolicyID with
      | none => .done 503 "access_configuration_error"
      | some policy =>
        if ¬ policy.enabled then .done 503 "access_configuration_error"
        else match snap.accessProviders.lookup policy.providerID with
          | none => .done 503 "access_configuration_error"
          | some provider =>
            if ¬ provider.enabled then .done 503 "access_configuration_error"
            else match authenticate e snap provider listener r with
              | .failed => .done 503 "access_provider_error"
              | .refused status errorKind => .done status errorKind
              | .granted principal =>
                if publicAccessPolicyAllowsGroups policy principal.groups then
                  .proceed (some { principal with headerNames := trustedHeaderNames })
                else .done 403 "access_denied"

/-- `basicAuth` is the value of the credentials if they are enabled. -/
structure PublicRouteTarget where
  upstreamRequestHeaders : List (Bytes × Bytes)
  basicAuth : Option Bytes

def setBasicAuth (target : PublicRouteTarget) (h : Header) : Header :=
  match target.basicAuth with
  | none => h
  | some credentials => Header.set h (text "Authorization") credentials

def applyUpstreamTargetRequestConfig (target : PublicRouteTarget) (h : Header) : Header :=
  setBasicAuth target (target.upstreamRequestHeaders.foldl (fun h field => Header.set h field.1 field.2) h)

def publicForwardedIdentityHeaderNames : List Bytes :=
  [text "Cf-Connecting-Ip",text "Cf-Connecting-Ipv6",text "Cloudfront-Viewer-Address",text "Fastly-Client-Ip",
    text "Fly-Client-Ip",text "Forwarded",text "True-Client-Ip",text "X-Appengine-User-Ip",text "X-Azure-Clientip",
    text "X-Client-Ip",text "X-Cluster-Client-Ip",text "X-Envoy-External-Address",text "X-Forwarded-Client-Ip",
    text "X-Forwarded-For",text "X-Forwarded-Host",text "X-Forwarded-Proto",text "X-Forwarded-Port",
    text "X-Original-Forwarded-For",text "X-Real-Ip"]

def applyTrustedForwardedHeaders (e : Environment) (snap : PublicProxySnapshot) (listener : PublicListener) (r : Request)
    (h : Header) : Header :=
  let h := publicForwardedIdentityHeaderNames.foldl Header.del h
  let h := snap.clientIdentity.headerNames.foldl Header.del h
  let client := publicAccessRequestClientIP snap r
  let h := if client = [] then h else Header.set (Header.set h (text "X-Forwarded-For") client) (text "X-Real-Ip") client
  let host := e.normalizeRequestHost r.line.host
  let h := if host = [] then h else Header.set h (text "X-Forwarded-Host") host
  let proto := forwardedProtoForPublicListener listener
  Header.set (Header.set h (text "X-Forwarded-Proto") proto) (text "X-Forwarded-Port")
    (forwardedPortForPublicListener listener proto)

def applyTrustedPublicAccessHeaders (principal : Option PublicAccessPrincipal) (h : Header) : Header :=
  match principal with
  | none => h
  | some principal =>
    let h := principal.headerNames.foldl Header.del h
    let h := if principal.stripAuthorization then Header.del h (text "Authorization") else h
    principal.forwardedHeader.entries.foldl (fun h entry => addAll (Header.del h entry.1) entry.1 entry.2) h

def rewrite (e : Environment) (snap : PublicProxySnapshot) (target : PublicRouteTarget) (listener : PublicListener)
    (principal : Option PublicAccessPrincipal) (r : Request) : Header :=
  let h := removePublicManagementSessionCookie e (e.removeHopByHop r.header)
  let h := applyUpstreamTargetRequestConfig target h
  let h := applyTrustedForwardedHeaders e snap listener r h
  let h := applyTrustedPublicAccessHeaders principal h
  setBasicAuth target h

def forwarded (e : Environment) (snap : PublicProxySnapshot) (target : PublicRouteTarget) (found : PublicRouteMatch)
    (r : Request) : Option Header :=
  match found,publicAccessControlStage e snap found r with
  | .ok (_,listener),.proceed principal => some (rewrite e snap target listener principal r)
  | _,_ => none

end P2pstream.Kernel.PublicAccess
