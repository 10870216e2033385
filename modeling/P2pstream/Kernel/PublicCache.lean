import P2pstream.Library.Headers

/-! Whether the public cache may store a response, and for how long, `public_cache.go`.
-/
namespace P2pstream.Kernel.PublicCache
open Library.Encoding (Bytes text)
open Library.Text
open Library.Headers (Header lower)

def millisecond : Int := 1000000
def second : Int := 1000000000
def defaultPublicCacheTTLMillis : Int := 3600000

/-- A product of `int64` values. -/
def int64 (value : Int) : Int := (value + 2^63) % 2^64 - 2^63

/-- `strconv.ParseInt` in base ten, for 64 bits. -/
def parseInt (value : Bytes) : Option Int :=
  let number := match value with
    | 0x2d :: digits => (readDecimal digits).map fun size => -(size : Int)
    | 0x2b :: digits => (readDecimal digits).map Int.ofNat
    | digits => (readDecimal digits).map Int.ofNat
  number.filter fun number => -2^63 ≤ number ∧ number < 2^63

structure PublicCacheControlDirective where
  name : Bytes
  value : Bytes
  deriving DecidableEq

def directive (part : Bytes) : Option PublicCacheControlDirective :=
  let part := trimSpace part
  if part = [] then none
  else
    let (name,value) := (cut 0x3d part).getD (part,[])
    let name := lower (trimSpace name)
    if name = [] then none else some ⟨name,trimSpace value⟩

def publicCacheControlDirectives (header : Header) : List PublicCacheControlDirective :=
  (header.values (text "Cache-Control")).flatMap fun line => (line.splitOn 0x2c).filterMap directive

def seconds (d : PublicCacheControlDirective) : Option Int := parseInt (trimSet (text "\"") (trimSpace d.value))

def lifetime (seconds : Int) : Int := int64 (seconds * second)

/-- The loop over the directives, with the lifetime of the first `max-age`. -/
def controlTTL (maxAge : Option Int) : List PublicCacheControlDirective → Option Int
  | [] => maxAge
  | d :: rest =>
    match seconds d with
    | none => controlTTL maxAge rest
    | some seconds =>
      if d.name = text "s-maxage" then some (lifetime seconds)
      else if d.name = text "max-age" then controlTTL (some (maxAge.getD (lifetime seconds))) rest
      else controlTTL maxAge rest

/-- The accepted `Vary` names for those of the rule and of the response, `http.ParseTime`, the clock. -/
structure Environment where
  publicCacheResponseVaryHeaders : List Bytes → List Bytes → Option (List Bytes)
  parseTime : Bytes → Option Int
  now : Int

inductive TTLMode where
  | fixed
  | origin
  deriving DecidableEq

structure PublicCacheRuleConfig where
  cacheStatusCodes : List Int
  varyHeaders : List Bytes
  ttl : Int
  ttlMode : TTLMode

structure Response where
  statusCode : Int
  header : Header
  trailer : Header

variable (x : Environment)

/-- `time.Until`, which stops at the ends of a duration. -/
def timeUntil (time : Int) : Int := max (-2^63) (min (2^63 - 1) (time - x.now))

def publicCacheOriginTTL (header : Header) : Option Int :=
  match controlTTL none (publicCacheControlDirectives header) with
  | some ttl => some ttl
  | none =>
    let expires := header.get (text "Expires")
    if expires = [] then none else ((x.parseTime expires).map (timeUntil x)).filter (0 < ·)

def publicCacheResponseEligibility (rule : PublicCacheRuleConfig) (resp : Response) : Option (Int × List Bytes) :=
  if resp.statusCode ∉ rule.cacheStatusCodes ∨ resp.header.values (text "Set-Cookie") ≠ [] ∨ resp.trailer.entries ≠ [] ∨
      resp.header.values (text "Trailer") ≠ [] then none
  else if (publicCacheControlDirectives resp.header).any
      (·.name ∈ [text "no-store",text "private",text "no-cache"]) then none
  else if text "text/event-stream" <:+: lower (resp.header.get (text "Content-Type")) then none
  else match x.publicCacheResponseVaryHeaders rule.varyHeaders (resp.header.values (text "Vary")) with
    | none => none
    | some varyHeaders =>
      let ttl := if rule.ttl ≤ 0 then defaultPublicCacheTTLMillis * millisecond else rule.ttl
      let ttl := if rule.ttlMode = .origin then (publicCacheOriginTTL x resp.header).getD ttl else ttl
      if ttl ≤ 0 then none else some (ttl,varyHeaders)

end P2pstream.Kernel.PublicCache
