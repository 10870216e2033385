import P2pstream.Library.Paths

/-! The path checks of the public proxy pipeline. Go strings are byte strings; the
parts of `net/url` that produce the views of a request path are written out here.
-/
namespace P2pstream.Kernel.PathSecurity
open Library.Paths

def percent : UInt8 := 0x25
def question : UInt8 := 0x3f
def colon : UInt8 := 0x3a
def star : UInt8 := 0x2a

def isDigit (c : UInt8) : Bool := 0x30 ≤ c && c ≤ 0x39

def isLower (c : UInt8) : Bool := 0x61 ≤ c && c ≤ 0x7a

def isUpper (c : UInt8) : Bool := 0x41 ≤ c && c ≤ 0x5a

def publicPathHexDigit (c : UInt8) : Option UInt8 :=
  if 0x30 ≤ c ∧ c ≤ 0x39 then some (c - 0x30)
  else if 0x61 ≤ c ∧ c ≤ 0x66 then some (c - 0x61 + 10)
  else if 0x41 ≤ c ∧ c ≤ 0x46 then some (c - 0x41 + 10)
  else none

/-- The byte of a valid escape `%hi lo`. -/
def publicPathTriplet (c hi lo : UInt8) : Option UInt8 :=
  if c = percent then
    match publicPathHexDigit hi,publicPathHexDigit lo with
    | some high,some low => some (high <<< 4 ||| low)
    | _,_ => none
  else none

def hasPublicPathEscape : Bytes → Bool
  | c :: hi :: lo :: rest => (publicPathTriplet c hi lo).isSome || hasPublicPathEscape (hi :: lo :: rest)
  | _ => false

def decodePublicPathLayer : Bytes → Bytes × Bool
  | c :: hi :: lo :: rest =>
    match publicPathTriplet c hi lo with
    | some byte => (byte :: (decodePublicPathLayer rest).1,true)
    | none =>
      let (decoded,changed) := decodePublicPathLayer (hi :: lo :: rest)
      (c :: decoded,changed)
  | path => (path,false)

def shouldEscape (c : UInt8) : Bool :=
  -- `-_.~` are unreserved, `$&+,/:;=@` are left alone in a path.
  !(isDigit c || isLower c || isUpper c ||
    c ∈ [0x2d,0x5f,0x2e,0x7e,0x24,0x26,0x2b,0x2c,0x2f,0x3a,0x3b,0x3d,0x40])

def upperHex (digit : UInt8) : UInt8 := if digit < 10 then digit + 0x30 else digit - 10 + 0x41

def escape (path : Bytes) : Bytes :=
  path.flatMap fun c => if shouldEscape c then [percent,upperHex (c >>> 4),upperHex (c &&& 15)] else [c]

/-- Every `%` must start a valid escape. -/
def unescape : Bytes → Option Bytes
  | [] => some []
  | c :: rest =>
    if c = percent then
      match rest with
      | hi :: lo :: more =>
        match publicPathTriplet c hi lo with
        | some byte => (unescape more).map (byte :: ·)
        | none => none
      | _ => none
    else (unescape rest).map (c :: ·)

def validEncoded (path : Bytes) : Bool :=
  -- `!$&'()*+,;=:@`, the brackets and the percent sign itself pass.
  path.all fun c =>
    c ∈ [0x21,0x24,0x26,0x27,0x28,0x29,0x2a,0x2b,0x2c,0x3b,0x3d,0x3a,0x40,0x5b,0x5d,0x25] || !shouldEscape c

structure URL where
  scheme : Bytes
  opaquePart : Bytes
  path : Bytes
  rawPath : Bytes
  forceQuery : Bool
  rawQuery : Bytes

namespace URL

def escapedPath (u : URL) : Bytes :=
  if u.rawPath ≠ [] ∧ validEncoded u.rawPath ∧ unescape u.rawPath = some u.path then u.rawPath
  else if u.path = [star] then [star]
  else escape u.path

def requestURI (u : URL) : Bytes :=
  let target :=
    if u.opaquePart = [] then
      if u.escapedPath = [] then [slash] else u.escapedPath
    else if [slash,slash] <+: u.opaquePart then u.scheme ++ colon :: u.opaquePart
    else u.opaquePart
  if u.forceQuery ∨ u.rawQuery ≠ [] then target ++ question :: u.rawQuery else target

end URL

structure Request where
  requestURI : Bytes
  url : Option URL

/-- What follows the first `://`. -/
def afterScheme : Bytes → Option Bytes
  | [] => none
  | c :: rest => if [colon,slash,slash] <+: c :: rest then some (rest.drop 2) else afterScheme rest

def requestTargetPathForPublicValidation (r : Request) : Bytes :=
  let target :=
    match r.requestURI,r.url with
    | [],some u => u.requestURI
    | target,_ => target
  let target := target.takeWhile (· ≠ question)
  if [slash] <+: target ∨ target = [] then target
  else match afterScheme target with
    | some rest =>
      let path := rest.dropWhile (· ≠ slash)
      if path = [] then [slash] else path
    | none => target

structure PublicPathIssueSet where
  decodedDotSegment : Bool := false
  rawBackslash : Bool := false
  nul : Bool := false
  encodedSlash : Bool := false
  encodedBackslash : Bool := false
  duplicateSlash : Bool := false
  pathParameter : Bool := false
  decodeLimit : Bool := false
  nestedEncoding : Bool := false
  deriving DecidableEq

def PublicPathIssueSet.hasEncodedSeparator (issues : PublicPathIssueSet) : Bool :=
  issues.encodedSlash || issues.encodedBackslash

def containsPublicPathDotSegment (path : Bytes) : Bool :=
  (segments path).any fun segment => segment = [dot] || segment = [dot,dot]

def containsRawPublicPathBackslash (path : Bytes) : Bool := backslash ∈ path

/-- ASCII part of `strings.ToLower`. The only other runes with an ASCII lower case
give `i` and `k`, which no encoded separator contains. -/
def toLower (c : UInt8) : UInt8 := if isUpper c then c + 0x20 else c

def containsEncodedPublicPathSlash (path : Bytes) : Bool := [percent,0x32,0x66] <:+: path.map toLower

def containsEncodedPublicPathBackslash (path : Bytes) : Bool := [percent,0x35,0x63] <:+: path.map toLower

/-- A segment that is a dot segment once its parameters are stripped. -/
def hidesPublicPathDotSegment (path : Bytes) : Bool :=
  (segments path).any fun segment => [dot,semicolon] <+: segment || [dot,dot,semicolon] <+: segment

/-- The body of the loop over layers, up to the decision to decode again. -/
def inspectPublicPathLayer (path : Bytes) (issues : PublicPathIssueSet) : PublicPathIssueSet :=
  let separated := backslashToSlash path
  let decodedDotSegment := issues.decodedDotSegment || containsPublicPathDotSegment separated
  let decodedDotSegment :=
    if !decodedDotSegment && decide (semicolon ∈ separated) then hidesPublicPathDotSegment separated
    else decodedDotSegment
  { issues with
    decodedDotSegment
    nul := issues.nul || decide (nul ∈ path)
    duplicateSlash := issues.duplicateSlash || decide ([slash,slash] <:+: separated)
    pathParameter := issues.pathParameter || decide (semicolon ∈ path)
    encodedSlash := issues.encodedSlash || containsEncodedPublicPathSlash path
    encodedBackslash := issues.encodedBackslash || containsEncodedPublicPathBackslash path }

def maxPublicPathDecodeLayers : Nat := 8

def inspectPublicPathLayersFrom : Nat → Bytes → PublicPathIssueSet → PublicPathIssueSet
  | 0,path,issues =>
    let issues := inspectPublicPathLayer path issues
    { issues with decodeLimit := issues.decodeLimit || hasPublicPathEscape path }
  | remaining + 1,path,issues =>
    let issues := inspectPublicPathLayer path issues
    match decodePublicPathLayer path with
    | (_,false) => issues
    | (next,true) => inspectPublicPathLayersFrom remaining next issues

def inspectPublicPathLayers (path : Bytes) (issues : PublicPathIssueSet) : PublicPathIssueSet :=
  inspectPublicPathLayersFrom maxPublicPathDecodeLayers path issues

/-- The loop over the views: empty views and views seen before are skipped. -/
def inspectPublicPathViews : List Bytes → List Bytes → PublicPathIssueSet → PublicPathIssueSet
  | _,[],issues => issues
  | previous,path :: rest,issues =>
    inspectPublicPathViews (previous ++ [path]) rest
      (if path = [] ∨ path ∈ previous then issues else inspectPublicPathLayers path issues)

def publicPathViews (r : Request) (u : URL) : List Bytes :=
  [requestTargetPathForPublicValidation r,u.escapedPath,u.rawPath,u.path]

def classifyPublicRequestPath (r : Option Request) : PublicPathIssueSet :=
  match r with
  | none => {}
  | some r =>
    match r.url with
    | none => {}
    | some u =>
      inspectPublicPathViews [] (publicPathViews r u)
        { rawBackslash := containsRawPublicPathBackslash (requestTargetPathForPublicValidation r) ||
            containsRawPublicPathBackslash u.rawPath
          nestedEncoding := hasPublicPathEscape u.path }

/-- White space in the sense of `unicode.IsSpace`. -/
def isSpace (c : Char) : Bool :=
  c.toNat ∈ [0x09,0x0a,0x0b,0x0c,0x0d,0x20,0x85,0xa0,0x1680,0x2028,0x2029,0x202f,0x205f,0x3000] ||
    (0x2000 ≤ c.toNat && c.toNat ≤ 0x200a)

def trimSpace (text : List Char) : List Char := ((text.dropWhile isSpace).reverse.dropWhile isSpace).reverse

structure PublicRoute where
  pathSecurityMode : String

def publicRoutePathSecurityModeStrict : String := "strict"

def publicRoutePathSecurityModeAllowEncodedSeparators : String := "allow_encoded_separators"

def normalizePublicRoutePathSecurityMode (mode : String) : String :=
  let mode := String.ofList (trimSpace (mode.toList.map Char.toLower))
  if mode = "" ∨ mode = publicRoutePathSecurityModeStrict then publicRoutePathSecurityModeStrict
  else if mode = publicRoutePathSecurityModeAllowEncodedSeparators then
    publicRoutePathSecurityModeAllowEncodedSeparators
  else mode

def publicRouteAllowsEncodedPathSeparators (route : PublicRoute) : Bool :=
  normalizePublicRoutePathSecurityMode route.pathSecurityMode = publicRoutePathSecurityModeAllowEncodedSeparators

inductive RouteError where
  | noPublicRouteAvailable
  | other
  deriving DecidableEq

inductive StageResult where
  | proceed
  | done
  deriving DecidableEq

/-- `app` is `matchPublicRouteInSnapshot` at the snapshot and the listener of the
request, if the pipeline has an application at all. -/
structure PublicProxyContext where
  request : Option Request
  app : Option (Option Request → Except RouteError PublicRoute)
  pathIssues : PublicPathIssueSet
  routeMatch : Option (Except RouteError PublicRoute)
  encodedPathSeparatorsAllowed : Bool

def rejectGloballyInvalidPublicPathStage (ctx : PublicProxyContext) : PublicProxyContext × StageResult :=
  let issues := classifyPublicRequestPath ctx.request
  let checked := { ctx with pathIssues := issues }
  if !issues.decodedDotSegment && !issues.rawBackslash && !issues.nul && !issues.decodeLimit &&
      !issues.nestedEncoding then (checked,.proceed)
  else (checked,.done)

def routePathSecurityStage (ctx : PublicProxyContext) : PublicProxyContext × StageResult :=
  match ctx.app with
  | none => (ctx,.proceed)
  | some matchPublicRoute =>
    let found := matchPublicRoute ctx.request
    let matched := { ctx with routeMatch := some found }
    if !ctx.pathIssues.hasEncodedSeparator && !ctx.pathIssues.duplicateSlash && !ctx.pathIssues.pathParameter then
      (matched,.proceed)
    else match found with
      | .error .noPublicRouteAvailable => (matched,.done)
      | .error .other => (matched,.proceed)
      | .ok route =>
        if publicRouteAllowsEncodedPathSeparators route then
          ({ matched with encodedPathSeparatorsAllowed := ctx.pathIssues.hasEncodedSeparator },.proceed)
        else (matched,.done)

end P2pstream.Kernel.PathSecurity
