import P2pstream.Library.AddressText

/-! The destinations an agent may dial: the allow rules as they are parsed, and the check of
a requested address against them.
-/
namespace P2pstream.Kernel.Destinations
open Library.Encoding (Bytes text)
open Library.Text Library.Addresses Library.AddressText

structure AgentDestinationPortRange where
  any : Bool := false
  min : Nat := 0
  max : Nat := 0
  deriving DecidableEq

/-- Without a prefix, `cidr` is the invalid one that contains nothing. -/
structure AgentDestinationRule where
  hostname : Bytes := []
  cidr : Option Prefix := none
  hasPrefix : Bool := false
  ports : AgentDestinationPortRange
  deriving DecidableEq

structure AgentDestinationPolicy where
  rules : List AgentDestinationRule := []
  hasPrefixRules : Bool := false
  allowAny : Bool := false
  deriving DecidableEq

inductive TargetError where
  | message (text : String)
  | portInvalid (spec : Bytes)
  | portOutside (port : Nat)
  deriving DecidableEq

inductive PolicyError where
  | invalidTarget (raw : Bytes) (cause : TargetError)
  | allowAnyWithTargets
  deriving DecidableEq

def defaultAgentDestinationRules : List Bytes := [text "127.0.0.0/8",text "::1/128"]

def dash : UInt8 := 0x2d

def parseAgentDestinationPort (spec : Bytes) : Except TargetError Nat :=
  let spec := trimSpace spec
  if spec = [] then .error (.message "port is required")
  else if ¬ spec.all isDigit then .error (.portInvalid spec)
  -- `Atoi` refuses what does not fit into an int.
  else if 2 ^ 63 ≤ decimal spec then .error (.portInvalid spec)
  else if decimal spec < 1 ∨ 65535 < decimal spec then .error (.portOutside (decimal spec))
  else .ok (decimal spec)

def parseAgentDestinationPortRange (spec : Bytes) : Except TargetError AgentDestinationPortRange :=
  let spec := trimSpace spec
  if spec = [] then .error (.message "port is required")
  else match cut dash spec with
    | some (startText,endText) => do
      let start ← parseAgentDestinationPort startText
      let last ← parseAgentDestinationPort endText
      if last < start then throw (.message "port range start must be less than or equal to end")
      pure { min := start, max := last }
    | none => do
      let port ← parseAgentDestinationPort spec
      pure { min := port, max := port }

def AgentDestinationPortRange.matches (r : AgentDestinationPortRange) (port : Nat) : Bool :=
  r.any || (r.min ≤ port && port ≤ r.max)

def normalizeAgentDestinationAddr (addr : Addr) : Addr := addr.unmap.withZone []

def normalizeAgentDestinationPrefix (p : Prefix) : Option Prefix :=
  let addr := normalizeAgentDestinationAddr p.addr
  let bits : Int := if p.addr.is4In6 ∧ addr.is4 then p.bits - 96 else p.bits
  let bits := if addr.is4 ∧ 32 < bits then 32 else bits
  let bits := if bits < 0 then 0 else bits
  (Prefix.from? addr bits).map Prefix.masked

def prefixForAgentDestinationAddr (addr : Addr) : Option Prefix :=
  let addr := normalizeAgentDestinationAddr addr
  Prefix.from? addr (if addr.is4 then 32 else 128)

def splitAgentAllowTarget (raw : Bytes) : Except TargetError (Bytes × Option Bytes) :=
  let value := trimSpace raw
  if value = [] then .error (.message "target is required")
  else if value.head? = some openBracket then
    match cutLast closeBracket value with
    | none => .error (.message "bracketed host is missing closing bracket")
    | some (front,rest) =>
      if rest = [] then .ok (front.tail,none)
      else if rest.head? = some colon ∧ 1 < rest.length then .ok (front.tail,some rest.tail)
      else .error (.message "bracketed host must be followed by an optional port")
  else if value.count colon = 1 then
    match cut colon value with
    | none => .ok (value,none)
    | some (before,after) =>
      if before = [] then .error (.message "host is required")
      else if after = [] then .error (.message "port is required")
      else .ok (before,some after)
  else .ok (value,none)

section
variable (toLower : Bytes → Bytes)

def normalizeAgentDestinationHost (host : Bytes) : Bytes :=
  let host := toLower (trimSpace host)
  if host.getLast? = some dot then host.dropLast else host

def parseAgentAllowTargetHost (host : Bytes) (ports : AgentDestinationPortRange) : Except TargetError AgentDestinationRule :=
  if host = [] then .error (.message "host is required")
  else if containsAny (text " \t\r\n") host then .error (.message "host must not contain whitespace")
  else match parsePrefix host with
    | some p => .ok { cidr := normalizeAgentDestinationPrefix p, hasPrefix := true, ports }
    | none =>
      if slash ∈ host then .error (.message "CIDR prefix is invalid")
      else match parseAddr host with
        | some addr => .ok { cidr := prefixForAgentDestinationAddr addr, hasPrefix := true, ports }
        | none =>
          let hostname := normalizeAgentDestinationHost toLower host
          if hostname = [] then .error (.message "hostname is required")
          else if 0x2a ∈ hostname then .error (.message "wildcard hostnames are not supported")
          else if containsAny (text "[]/:") hostname then .error (.message "hostname is invalid")
          else .ok { hostname, ports }

def parseAgentAllowTarget (raw : Bytes) : Except TargetError AgentDestinationRule := do
  let (host,portSpec) ← splitAgentAllowTarget raw
  let ports ← match portSpec with
    | none => pure { any := true }
    | some spec => parseAgentDestinationPortRange spec
  parseAgentAllowTargetHost toLower (trimSpace host) ports

def hasNonEmptyAgentDestinationRule (rawRules : List Bytes) : Bool := rawRules.any fun raw => trimSpace raw ≠ []

def addAllowTargets : List Bytes → AgentDestinationPolicy → Except PolicyError AgentDestinationPolicy
  | [],policy => .ok policy
  | raw :: rest,policy =>
    let raw := trimSpace raw
    if raw = [] then addAllowTargets rest policy
    else match parseAgentAllowTarget toLower raw with
      | .error cause => .error (.invalidTarget raw cause)
      | .ok rule =>
        addAllowTargets rest { policy with
          rules := policy.rules ++ [rule], hasPrefixRules := policy.hasPrefixRules || rule.hasPrefix }

def newAgentDestinationPolicy (rawRules : List Bytes) (allowAny : Bool) : Except PolicyError AgentDestinationPolicy :=
  let rawRules := if ¬ allowAny ∧ ¬ hasNonEmptyAgentDestinationRule rawRules then defaultAgentDestinationRules else rawRules
  match addAllowTargets toLower rawRules { allowAny } with
  | .error problem => .error problem
  | .ok policy => if policy.allowAny ∧ policy.rules ≠ [] then .error .allowAnyWithTargets else .ok policy

/-- What the resolver answers; a lookup is interrupted by a timeout or a cancelled context. -/
inductive LookupAnswer where
  | addresses (addrs : List Addr)
  | interrupted
  | failed
  deriving DecidableEq

inductive DialError where
  | forbidden (reason : String)
  | lookup
  deriving DecidableEq

namespace AgentDestinationPolicy

def matchesHostname (p : AgentDestinationPolicy) (hostname : Bytes) (port : Nat) : Bool :=
  p.rules.any fun rule => rule.hostname ≠ [] && rule.hostname = hostname && rule.ports.matches port

def matchesAddr (p : AgentDestinationPolicy) (addr : Addr) (port : Nat) : Bool :=
  p.rules.any fun rule => rule.hasPrefix && rule.cidr.any (·.contains addr) && rule.ports.matches port

def agentDestinationAddrMatchesNetwork (addr : Addr) (network : Bytes) : Bool :=
  let network := toLower (trimSpace network)
  if network = text "tcp4" then addr.is4 else if network = text "tcp6" then addr.is6 else true

/-- The first address of the answer that the network and the rules allow. -/
def dialResolved (p : AgentDestinationPolicy) (network : Bytes) (port : Nat) : LookupAnswer → Except DialError Bytes
  | .interrupted => .error .lookup
  | .failed => .error (.forbidden "requested hostname did not resolve to an allowed address")
  | .addresses addrs =>
    let allowed := (addrs.map normalizeAgentDestinationAddr).find? fun addr =>
      agentDestinationAddrMatchesNetwork toLower addr network && p.matchesAddr addr port
    match allowed with
    | some addr => .ok (joinHostPort (formatAddr addr) (itoa port))
    | none => .error (.forbidden "requested hostname resolved outside the allowlist")

/-- The checks of `dialAddress` on the trimmed host and the port. -/
def dialHost (p : AgentDestinationPolicy) (network address host : Bytes) (port : Nat) (lookup : Bytes → LookupAnswer) :
    Except DialError Bytes :=
  if host = [] then .error (.forbidden "requested address host is required")
  else match parseAddr host with
    | some addr =>
      if p.matchesAddr (normalizeAgentDestinationAddr addr) port then .ok address
      else .error (.forbidden "requested IP address is not allowed")
    | none =>
      let hostname := normalizeAgentDestinationHost toLower host
      if hostname = [] ∨ containsAny (text "[]/:") hostname then .error (.forbidden "requested hostname is invalid")
      else if p.matchesHostname hostname port then .ok address
      else if ¬ p.hasPrefixRules then .error (.forbidden "requested hostname is not allowed")
      else p.dialResolved toLower network port (lookup host)

def dialAddress (p : AgentDestinationPolicy) (network address : Bytes) (lookup : Bytes → LookupAnswer) :
    Except DialError Bytes :=
  if p.allowAny then .ok address
  else if p.rules = [] then .error (.forbidden "no destinations are allowed by the local agent policy")
  else match splitHostPort (trimSpace address) with
    | .error _ => .error (.forbidden "requested address must be host:port")
    | .ok (host,portText) =>
      match parseAgentDestinationPort portText with
      | .error _ => .error (.forbidden "requested address port is invalid")
      | .ok port => p.dialHost toLower network address (trimSpace host) port lookup

end AgentDestinationPolicy
end

end P2pstream.Kernel.Destinations
