import P2pstream.Kernel.PublicSites

/-! The stages of a public request, `public_proxy_pipeline.go`, and the one that binds the
authority to the server name of the TLS connection. What the other stages answer is arbitrary.
-/
namespace P2pstream.Kernel.PublicPipeline
open Kernel.PublicSites Library.AddressText
open Library.Encoding (Bytes)

inductive Stage where
  | publicRequestAdmission | rejectGloballyInvalidPublicPath | serveACMEChallenge | validatePublicSiteAuthority
  | serveWAFReserved | routePathSecurity | beginWAFPressure | wafPolicy | rateLimit | publicAccessControl | trafficShaper
  | routeResolution | redirect | routeSelectionTrace | publicResponseAdmission | cacheLookup
  | activeTargetAccountingAndForward
  deriving DecidableEq

/-- The stages up to the check of the authority. -/
def precedingStages : List Stage := [.publicRequestAdmission,.rejectGloballyInvalidPublicPath,.serveACMEChallenge]

def laterStages : List Stage :=
  [.serveWAFReserved,.routePathSecurity,.beginWAFPressure,.wafPolicy,.rateLimit,.publicAccessControl,.trafficShaper,
    .routeResolution,.redirect,.routeSelectionTrace,.publicResponseAdmission,.cacheLookup,
    .activeTargetAccountingAndForward]

def publicProxyStages : List Stage := precedingStages ++ .validatePublicSiteAuthority :: laterStages

/-- The server name of a TLS connection is empty when the client sent none. -/
structure Request where
  host : Bytes
  serverName : Option Bytes
  deriving DecidableEq

/-- `net.ParseIP` succeeds. -/
def ipLiteral (hostname : Bytes) : Bool := (parseAddr hostname).any (·.zone = [])

def statusBadRequest : Nat := 400
def statusMisdirectedRequest : Nat := 421

variable (x : Lexicon) (snap : Snapshot) (listenerID : Nat)

def managed (hostname : Bytes) : Bool := (matchPublicSiteForListener x snap listenerID hostname).isSome

def misdirected (hostname serverName : Bytes) : Bool :=
  let sni := if serverName = [] then some [] else normalizePublicSiteRequestHostname x serverName
  (managed x snap listenerID hostname || managed x snap listenerID (sni.getD [])) &&
    (sni.isNone || (serverName = [] && !ipLiteral hostname) || (serverName ≠ [] && sni ≠ some hostname))

/-- The status of a refusal, or the request that goes on. -/
def validatePublicSiteAuthorityStage (r : Request) : Except Nat Request :=
  if snap.siteHostsByListener listenerID = [] ∧ snap.siteBindingsByListener listenerID = [] ∧
      snap.defaultSiteByListener listenerID = none then .ok r
  else match parsePublicSiteRequestAuthority x r.host with
    | none => .error statusBadRequest
    | some hostname =>
      let next := if managed x snap listenerID hostname then { r with host := hostname } else r
      if (snap.listeners listenerID).any (·.protocol = .https) ∧
          r.serverName.any (misdirected x snap listenerID hostname) then .error statusMisdirectedRequest
      else .ok next

/-- `run`: the stages that were entered, and the status of the one that was done. -/
def run (answer : Stage → Request → Option Nat) : List Stage → Request → List Stage × Option Nat
  | [],_ => ([],none)
  | stage :: rest,r =>
    let outcome := if stage = .validatePublicSiteAuthority then validatePublicSiteAuthorityStage x snap listenerID r
      else match answer stage r with
        | some status => .error status
        | none => .ok r
    match outcome with
    | .error status => ([stage],some status)
    | .ok next => ((stage :: (run answer rest next).1),(run answer rest next).2)

end P2pstream.Kernel.PublicPipeline
