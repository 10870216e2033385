import P2pstream.Library.Encoding

/-! The automatic activation of rules of the web application firewall, `public_waf.go`. Whether an
evaluation sees pressure is arbitrary.
-/
namespace P2pstream.Kernel.PublicWAF
open Library.Encoding (Bytes)

def millisecond : Int := 1000000

/-- Both periods are at most a day. -/
structure PublicWafRuleConfig where
  id : Nat
  fingerprint : Bytes
  minimumActiveMillis : Int
  quietPeriodMillis : Int

structure PublicWafRuleRuntime where
  fingerprint : Bytes
  automaticActive : Bool := false
  pressureStartedAt : Option Int := none
  quietStartedAt : Option Int := none
  deriving DecidableEq

abbrev Rules := Nat → Option PublicWafRuleRuntime

inductive Input where
  | evaluate (rule : PublicWafRuleConfig) (pressure : Bool) (now : Int)
  | reconcile (keep : Nat → Option Bytes)

/-- The runtime of this configuration, or a new one. -/
def kept (w : Rules) (id : Nat) (fingerprint : Bytes) : PublicWafRuleRuntime :=
  ((w id).filter (·.fingerprint = fingerprint)).getD { fingerprint }

def runtimeLocked (w : Rules) (rule : PublicWafRuleConfig) : PublicWafRuleRuntime := kept w rule.id rule.fingerprint

def updateAutomaticActivationLocked (runtime : PublicWafRuleRuntime) (rule : PublicWafRuleConfig) (pressure : Bool) (now : Int) :
    PublicWafRuleRuntime :=
  let minActive := rule.minimumActiveMillis * millisecond
  let quiet := rule.quietPeriodMillis * millisecond
  if pressure then
    let startedAt := runtime.pressureStartedAt.getD now
    { runtime with
      quietStartedAt := none
      pressureStartedAt := some startedAt
      automaticActive := runtime.automaticActive || minActive ≤ 0 || minActive ≤ now - startedAt }
  else if runtime.automaticActive then
    let startedAt := runtime.quietStartedAt.getD now
    if quiet ≤ 0 ∨ quiet ≤ now - startedAt then
      { runtime with pressureStartedAt := none, automaticActive := false, quietStartedAt := none }
    else { runtime with pressureStartedAt := none, quietStartedAt := some startedAt }
  else { runtime with pressureStartedAt := none }

/-- The runtimes of the enabled rules, whose fingerprints are kept. -/
def reconcile (w : Rules) (keep : Nat → Option Bytes) : Rules := fun id => (keep id).map (kept w id)

/-- The locked section of `evaluate` for a rule that the request matches, or `reconcile`. -/
def step (w : Rules) : Input → Rules
  | .evaluate rule pressure now =>
    Function.update w rule.id (some (updateAutomaticActivationLocked (runtimeLocked w rule) rule pressure now))
  | .reconcile keep => reconcile w keep

def after (history : List Input) : Rules := history.foldl step fun _ => none

end P2pstream.Kernel.PublicWAF
