import P2pstream.Kernel.PublicSites

/-! The keys of `rate_limiter.go`: the values that the key parts of a rule read from a request,
and the text whose SHA-256 names the bucket. Strings are byte strings.
-/
namespace P2pstream.Kernel.RateLimitKeys
open Kernel.PublicSites Library.AddressText
open Library.Encoding (Bytes text)

def maxRateLimitKeyValueBytes : Nat := 256
def rateLimitMissingValue : Bytes := text "<missing>"

inductive KeySource where
  | remoteIP | host | method | path | protocol | header | cookie | queryParam
  deriving DecidableEq

def KeySource.name : KeySource → String
  | .remoteIP => "remote_ip"
  | .host => "host"
  | .method => "method"
  | .path => "path"
  | .protocol => "protocol"
  | .header => "header"
  | .cookie => "cookie"
  | .queryParam => "query_param"

structure KeyPart where
  source : KeySource
  name : Bytes
  deriving DecidableEq

/-- What key parts read: an attached client identity comes with its resolved address, if any;
path and query values are decoded. -/
structure Request where
  identity : Option (Option Bytes)
  remoteAddr : Bytes
  host : Bytes
  method : Bytes
  path : Bytes
  protocol : Bytes
  header : Bytes → Bytes
  cookie : Bytes → Option Bytes
  query : Bytes → Bytes

def remoteIPForRateLimit (r : Request) : Bytes :=
  match r.identity with
  | some resolved => resolved.getD rateLimitMissingValue
  | none =>
    match splitHostPort r.remoteAddr with
    | .ok (host,_) => if host ≠ [] then host else r.remoteAddr
    | .error _ => if r.remoteAddr ≠ [] then r.remoteAddr else rateLimitMissingValue

/-- The host normal form, the case mappings, and SHA-256 with its hexadecimal form. -/
structure Primitives (κ : Type) where
  lexicon : Lexicon
  toUpper : Bytes → Bytes
  hash : Bytes → κ

variable {κ : Type} (p : Primitives κ)

def keyParts (parts : List KeyPart) : List KeyPart := if parts = [] then [⟨.remoteIP,[]⟩] else parts

def keyLabel (part : KeyPart) : Bytes := text part.source.name ++ text ":" ++ p.lexicon.toLower part.name

def keyValue (r : Request) (part : KeyPart) : Bytes :=
  let value := match part.source with
    | .remoteIP => remoteIPForRateLimit r
    | .host => normalizeRequestHost p.lexicon r.host
    | .method => p.toUpper r.method
    | .path => r.path
    | .protocol => r.protocol
    | .header => r.header part.name
    | .cookie => (r.cookie part.name).getD rateLimitMissingValue
    | .queryParam => r.query part.name
  let value := if value = [] then rateLimitMissingValue else value
  value.take maxRateLimitKeyValueBytes

def keyValues (parts : List KeyPart) (r : Request) : List Bytes :=
  (keyParts parts).flatMap fun part => [keyLabel p part,keyValue p r part]

def rateLimitKeyHash (values : List Bytes) : κ := p.hash (values.flatMap (· ++ [0]))

end P2pstream.Kernel.RateLimitKeys
