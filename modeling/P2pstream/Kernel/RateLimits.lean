import Mathlib.Data.List.MinMax
import Mathlib.Data.Rat.Floor
import P2pstream.Library.Tables

/-! The rate limiter of `rate_limiter.go`. Instants are nanoseconds since the epoch, durations
nanoseconds; the limiter itself computes in whole milliseconds. The `float64` levels of the
buckets are exact rationals. What a policy match and a key make of a request is part of the rule.
-/
namespace P2pstream.Kernel.RateLimits
open Library

def millisecond : Int := 1000000
def second : Int := 1000000000

def maxRateLimitWindowMillis : Int := 86400000
def maxRateLimitKeysPerRule : Nat := 10000
def rateLimitIdleStateTTL : Int := 15 * 60 * second
def rateLimitPruneInterval : Int := 60 * second
def defaultRateLimitLimit : Int := 60
def defaultRateLimitWindowMillis : Int := 60000

def publicPolicyMatchFailureBody : String := "Service Unavailable\n"

inductive Algorithm where
  | fixedWindow | slidingWindow | tokenBucket | leakyBucket
  deriving DecidableEq

/-- A rule for requests `ρ`; `evaluateMatch` is `none` when the match expression fails. -/
structure Rule (ρ : Type) where
  id : Nat
  enabled : Bool
  algorithm : Algorithm
  limit : Int
  windowMillis : Int
  burst : Int
  fingerprint : String
  evaluateMatch : ρ → Option Bool
  keyHash : ρ → String
  responseStatusCode : Int
  responseBody : String

/-- The numbers a rule is stored with, `validatePublicRateLimitRuleInput`. -/
def validatePublicRateLimitRuleInput (limit windowMillis burst : Int) : Except String (Int × Int × Int) :=
  let limit := if limit = 0 then defaultRateLimitLimit else limit
  let windowMillis := if windowMillis = 0 then defaultRateLimitWindowMillis else windowMillis
  if limit < 1 then .error "rate limit must be at least 1"
  else if windowMillis < 1000 ∨ maxRateLimitWindowMillis < windowMillis then
    .error "rate limit window must be between 1 second and 1 day"
  else if burst < 0 then .error "rate limit burst must be non-negative"
  else if 0 < burst ∧ 10 * limit < burst then .error "rate limit burst must not exceed 10x limit"
  else .ok (limit,windowMillis,burst)

/-- `publicRateLimitKeyRuntime`; a zero `lastSeenAt` is `none`. -/
structure KeyRuntime where
  fixedWindowStart : Int := 0
  fixedCount : Int := 0
  slidingHits : List Int := []
  tokens : ℚ := 0
  tokenLastRefill : Int := 0
  tokenInitialized : Bool := false
  leakyLevel : ℚ := 0
  leakyLastDrain : Int := 0
  leakyInitialized : Bool := false
  lastSeenAt : Option Nat := none
  deriving DecidableEq

structure AllowResult where
  allowed : Bool := false
  remaining : Int
  retryAfter : Int
  deriving DecidableEq

def millisDuration (ms : Int) : Int := (if ms < 1 then 1 else ms) * millisecond

variable {ρ : Type}

def effectiveRateLimitBurst (rule : Rule ρ) : Int := if 0 < rule.burst then rule.burst else rule.limit

namespace KeyRuntime

def enterWindow (windowStart : Int) (s : KeyRuntime) : KeyRuntime :=
  if s.fixedWindowStart ≠ windowStart then { s with fixedWindowStart := windowStart, fixedCount := 0 } else s

def allowFixedWindow (rule : Rule ρ) (nowMs : Int) (s : KeyRuntime) : KeyRuntime × AllowResult :=
  let window := rule.windowMillis
  let windowStart := nowMs / window * window
  let s := s.enterWindow windowStart
  if rule.limit ≤ s.fixedCount then
    (s,{ remaining := 0, retryAfter := millisDuration (windowStart + window - nowMs) })
  else
    let s := { s with fixedCount := s.fixedCount + 1 }
    (s,{
      allowed := true
      remaining := max 0 (rule.limit - s.fixedCount)
      retryAfter := millisDuration (windowStart + window - nowMs) })

/-- Hits are dropped from the front of the list, in the order they were recorded. -/
def allowSlidingWindow (rule : Rule ρ) (nowMs : Int) (s : KeyRuntime) : KeyRuntime × AllowResult :=
  let cutoff := nowMs - rule.windowMillis
  let hits := s.slidingHits.dropWhile (· ≤ cutoff)
  if rule.limit ≤ hits.length then
    ({ s with slidingHits := hits },
      { remaining := 0, retryAfter := millisDuration (hits.headD 0 + rule.windowMillis - nowMs) })
  else
    let hits := hits ++ [nowMs]
    ({ s with slidingHits := hits },{
      allowed := true
      remaining := max 0 (rule.limit - hits.length)
      retryAfter := millisDuration rule.windowMillis })

/-- The bucket is filled when it is first used and refilled over time. -/
def refillTokens (rule : Rule ρ) (nowMs : Int) (s : KeyRuntime) : KeyRuntime :=
  let capacity := effectiveRateLimitBurst rule
  if s.tokenInitialized then
    let elapsed := max 0 (nowMs - s.tokenLastRefill)
    if 0 < elapsed then
      { s with
        tokens := min (capacity : ℚ) (s.tokens + elapsed * rule.limit / rule.windowMillis)
        tokenLastRefill := nowMs }
    else s
  else { s with tokens := capacity, tokenLastRefill := nowMs, tokenInitialized := true }

def allowTokenBucket (rule : Rule ρ) (nowMs : Int) (s : KeyRuntime) : KeyRuntime × AllowResult :=
  let s := s.refillTokens rule nowMs
  if s.tokens < 1 then
    (s,{ remaining := 0, retryAfter := millisDuration (Rat.ceil ((1 - s.tokens) * rule.windowMillis / rule.limit)) })
  else
    let s := { s with tokens := s.tokens - 1 }
    (s,{ allowed := true, remaining := Rat.floor s.tokens, retryAfter := millisDuration rule.windowMillis })

def drainLevel (rule : Rule ρ) (nowMs : Int) (s : KeyRuntime) : KeyRuntime :=
  if s.leakyInitialized then
    let elapsed := max 0 (nowMs - s.leakyLastDrain)
    if 0 < elapsed then
      { s with
        leakyLevel := max 0 (s.leakyLevel - elapsed * rule.limit / rule.windowMillis)
        leakyLastDrain := nowMs }
    else s
  else { s with leakyLastDrain := nowMs, leakyInitialized := true }

def allowLeakyBucket (rule : Rule ρ) (nowMs : Int) (s : KeyRuntime) : KeyRuntime × AllowResult :=
  let capacity := effectiveRateLimitBurst rule
  let s := s.drainLevel rule nowMs
  if (capacity : ℚ) < s.leakyLevel + 1 then
    (s,{
      remaining := 0
      retryAfter := millisDuration (Rat.ceil ((s.leakyLevel + 1 - capacity) * rule.windowMillis / rule.limit)) })
  else
    let s := { s with leakyLevel := s.leakyLevel + 1 }
    (s,{
      allowed := true
      remaining := max 0 (capacity - Rat.ceil s.leakyLevel)
      retryAfter := millisDuration rule.windowMillis })

def allow (rule : Rule ρ) (nowMs : Int) (s : KeyRuntime) : KeyRuntime × AllowResult :=
  match rule.algorithm with
  | .slidingWindow => s.allowSlidingWindow rule nowMs
  | .tokenBucket => s.allowTokenBucket rule nowMs
  | .leakyBucket => s.allowLeakyBucket rule nowMs
  | .fixedWindow => s.allowFixedWindow rule nowMs

end KeyRuntime

structure RuleRuntime where
  fingerprint : String
  keys : Table String KeyRuntime

structure Limiter where
  rules : Table Nat RuleRuntime
  lastPrune : Option Nat

structure Decision where
  rule : Nat
  matchError : Bool := false
  statusCode : Int
  body : String
  headers : List (String × Int) := []
  retryAfter : Int := 0
  limit : Int := 0
  remaining : Int := 0
  resetAt : Int := 0
  deriving DecidableEq

/-- `time.UnixMilli`. -/
def unixMilli (now : Nat) : Int := (now / 1000000 : Nat)

def rateLimitGeneratedHeaders (rule : Rule ρ) (result : AllowResult) (now : Nat) : List (String × Int) :=
  let retryAfter := max 1 (Rat.ceil (result.retryAfter / second : ℚ))
  let resetUnix := ((now : Int) + retryAfter * second) / second
  [("Retry-After",retryAfter),("RateLimit-Limit",rule.limit),("RateLimit-Remaining",max 0 result.remaining),
    ("RateLimit-Reset",retryAfter),("X-RateLimit-Limit",rule.limit),("X-RateLimit-Remaining",max 0 result.remaining),
    ("X-RateLimit-Reset",resetUnix)]

namespace Limiter

/-- `newPublicRateLimiter`. -/
def empty : Limiter := ⟨∅,none⟩

def idle (now : Nat) (s : KeyRuntime) : Bool :=
  s.lastSeenAt.all fun lastSeenAt => rateLimitIdleStateTTL < (now : Int) - lastSeenAt

def pruneKeys (now : Nat) (runtime : RuleRuntime) : RuleRuntime :=
  { runtime with keys := Table.filterValues (fun s => !idle now s) runtime.keys }

def pruneLocked (l : Limiter) (now : Nat) : Limiter :=
  if l.lastPrune.any fun lastPrune => (now : Int) - lastPrune < rateLimitPruneInterval then l
  else { rules := Table.mapValues (pruneKeys now) l.rules, lastPrune := some now }

/-- `evictOldestRateLimitKey`; of several oldest keys it is the first of the table. -/
def evictOldestRateLimitKey (keys : Table String KeyRuntime) : Table String KeyRuntime :=
  match keys.entries.argmin fun entry => (entry.2.lastSeenAt.map (· + 1)).getD 0 with
  | none => keys
  | some oldest => keys.erase oldest.1

def runtime (l : Limiter) (rule : Rule ρ) : RuleRuntime :=
  match l.rules.lookup rule.id with
  | none => ⟨rule.fingerprint,∅⟩
  | some runtime => if runtime.fingerprint ≠ rule.fingerprint then ⟨rule.fingerprint,∅⟩ else runtime

def room (keys : Table String KeyRuntime) (key : String) : Table String KeyRuntime :=
  if (keys.lookup key).isNone ∧ maxRateLimitKeysPerRule ≤ keys.entries.length then evictOldestRateLimitKey keys else keys

def denied (rule : Rule ρ) (result : AllowResult) (now : Nat) : Decision where
  rule := rule.id
  statusCode := rule.responseStatusCode
  body := rule.responseBody
  headers := rateLimitGeneratedHeaders rule result now
  retryAfter := result.retryAfter
  limit := rule.limit
  remaining := result.remaining
  resetAt := now + result.retryAfter

def consult (l : Limiter) (now : Nat) (rule : Rule ρ) (key : String) : Limiter × AllowResult :=
  let runtime := l.runtime rule
  let s := { (runtime.keys.lookup key).getD {} with lastSeenAt := some now }
  let (s,result) := s.allow rule (unixMilli now)
  ({ l with rules := l.rules.insert rule.id { runtime with keys := (room runtime.keys key).insert key s } },result)

/-- Consult the rules that match in turn; the first that denies decides. -/
def consultAll (l : Limiter) (now : Nat) : List (Rule ρ × String) → Limiter × Option Decision
  | [] => (l,none)
  | (rule,key) :: rest =>
    let (next,result) := l.consult now rule key
    if result.allowed then next.consultAll now rest else (next,some (denied rule result now))

def candidates (r : ρ) : List (Rule ρ) → Except (Rule ρ) (List (Rule ρ × String))
  | [] => .ok []
  | rule :: rest =>
    if rule.enabled then
      match rule.evaluateMatch r with
      | none => .error rule
      | some matched =>
        match candidates r rest with
        | .error failed => .error failed
        | .ok found => .ok (if matched then (rule,rule.keyHash r) :: found else found)
    else candidates r rest

/-- `evaluate` around a way to prune; no decision lets the request pass. -/
def evaluateWith (prune : Limiter → Nat → Limiter) (l : Limiter) (rules : List (Rule ρ)) (r : ρ) (now : Nat) :
    Limiter × Option Decision :=
  match candidates r rules with
  | .error rule =>
    (l,some { rule := rule.id, matchError := true, statusCode := 503, body := publicPolicyMatchFailureBody })
  | .ok [] => (l,none)
  | .ok found => (prune l now).consultAll now found

def evaluate (l : Limiter) (rules : List (Rule ρ)) (r : ρ) (now : Nat) : Limiter × Option Decision :=
  evaluateWith pruneLocked l rules r now

/-- Serve requests in the order they take the lock, each with the time it captured before. -/
def serveWith (prune : Limiter → Nat → Limiter) (rules : List (Rule ρ)) (l : Limiter) :
    List (ρ × Nat) → Limiter × List (Option Decision)
  | [] => (l,[])
  | (r,now) :: rest =>
    let (next,decision) := l.evaluateWith prune rules r now
    let (last,decisions) := serveWith prune rules next rest
    (last,decision :: decisions)

def serve (rules : List (Rule ρ)) (l : Limiter) (requests : List (ρ × Nat)) : Limiter × List (Option Decision) :=
  serveWith pruneLocked rules l requests

end Limiter

end P2pstream.Kernel.RateLimits
