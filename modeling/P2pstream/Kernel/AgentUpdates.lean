import Mathlib.Data.List.Basic
import Mathlib.Algebra.Group.Int.Defs

/-! Managed agent updates: the rows of the campaign, assignment and identity
tables, and the signed records exchanged with the hosts. Times are nanoseconds.
Columns that are always written together are one field here.
-/
namespace P2pstream.Kernel.AgentUpdates

abbrev Bytes := List UInt8

def millisecond : Int := 1000000

def minute : Int := 60000 * millisecond

/-- `Truncate(time.Millisecond)`. -/
def truncate (time : Int) : Int := time - time % millisecond

def unixMilli (time : Int) : Int := time / millisecond

def maxInt64 : Int := 2 ^ 63 - 1

def agentUpdateDrainTimeout : Int := 5 * minute
def agentUpdatePostActionTimeout : Int := 5 * minute
def agentUpdateStageTimeout : Int := 30 * minute
def maxAuthorizationLifetime : Int := 1440 * minute
def maxSigningClockSkew : Int := 5 * minute

inductive CampaignState where
  | running | paused | cancelled | completed
  deriving DecidableEq

inductive AssignmentState where
  | pending | staging | staged | cordoned | activating | awaitingTunnel | healthyDwell
  | succeeded | failed | cancelled | blocked
  deriving DecidableEq

inductive DesiredAction where
  | none | stage | activate | rollback
  deriving DecidableEq

inductive AssignmentAction where
  | activate | rollback
  deriving DecidableEq

inductive ResultKind where
  | release | bootstrap
  deriving DecidableEq

def desiredActionAuth : DesiredAction → Option AssignmentAction
  | .activate => some .activate
  | .rollback => some .rollback
  | _ => none

structure Artifact where
  os : String
  arch : String
  name : String
  sizeBytes : Int
  sha256 : String
  deriving DecidableEq

structure Target where
  version : String
  commit : String
  manifestSha256 : String
  releaseSequence : Int
  securityEpoch : Int
  artifacts : List Artifact
  deriving DecidableEq

def artifactForPlatform (artifacts : List Artifact) (os arch : String) : Option Artifact :=
  artifacts.find? fun artifact => artifact.os = os && artifact.arch = arch

structure Policy where
  maxUnavailable : Int
  minimumEligibleAgentsPerRoute : Int
  canaryCount : Int
  waveSize : Int
  healthyDwellMillis : Int
  deriving DecidableEq

structure Campaign where
  id : Nat
  state : CampaignState
  generation : Int
  target : Target
  policy : Policy
  updatedAt : Int
  completedAt : Option Int
  deriving DecidableEq

/-- The `authorization_*` columns and the command sequence. -/
structure Authorization where
  action : Option AssignmentAction := none
  serverVersion : String := ""
  commandSequence : Int := 0
  nonce : Bytes := []
  sha256 : String := ""
  payload : Bytes := []
  signature : Bytes := []
  issuedAt : Option Int := none
  expiresAt : Option Int := none
  deriving DecidableEq

/-- The `root_action_*` and `root_result_*` columns. -/
structure RootResult where
  counter : Int := 0
  receiptPayload : Bytes := []
  receiptSignature : Bytes := []
  completedAt : Option Int := none
  kind : Option ResultKind := none
  manifestSha256 : String := ""
  version : String := ""
  commit : String := ""
  releaseSequence : Int := 0
  securityEpoch : Int := 0
  os : String := ""
  arch : String := ""
  artifactName : String := ""
  artifactSize : Int := 0
  artifactSha256 : String := ""
  deriving DecidableEq

/-- The `attested_*` columns and the nonce hash. -/
structure Attestation where
  manifestSha256 : String := ""
  binarySha256 : String := ""
  activationCounter : Int := 0
  nonceHash : String := ""
  deriving DecidableEq

structure Build where
  version : String := ""
  commit : String := ""
  deriving DecidableEq

structure Assignment where
  id : Nat
  campaignID : Nat
  agentID : Nat
  state : AssignmentState
  desiredAction : DesiredAction
  generation : Int
  cordoned : Bool
  failureCode : String
  failureDetail : String
  attested : Attestation
  authorization : Authorization
  root : RootResult
  running : Build
  observed : Build
  activatedAt : Option Int
  freshTunnelAt : Option Int
  healthyAt : Option Int
  lastReportAt : Option Int
  updatedAt : Int
  deriving DecidableEq

def AssignmentState.terminal : AssignmentState → Bool
  | .succeeded | .failed | .cancelled => true
  | _ => false

/-- The condition of the partial unique index and of every query for the active
assignment. -/
def Assignment.active (row : Assignment) : Bool :=
  !row.state.terminal || (row.state = .failed && row.desiredAction = .rollback)

structure Identity where
  agentID : Nat
  agentPublicID : String
  updaterKeyID : String
  updaterPublicKey : Bytes
  activatorKeyID : String
  activatorPublicKey : Bytes
  os : String
  arch : String
  authorityKeyID : String
  authorityEpoch : Int
  enrollmentGeneration : Int
  enabled : Bool
  lastCounter : Int
  lastCommandSequence : Int
  lastRootActionCounter : Int
  deriving DecidableEq

structure Authority where
  keyID : String
  publicKey : Bytes
  epoch : Int
  deriving DecidableEq

structure AssignmentAuthorization where
  agentPublicID : String
  assignmentID : Nat
  campaignID : Nat
  generation : Int
  action : AssignmentAction
  commandSequence : Int
  nonce : Bytes
  issuedAtUnixMillis : Int
  expiresAtUnixMillis : Int
  authorityKeyID : String
  authorityEpoch : Int
  serverVersion : String
  manifestSHA256 : String
  targetVersion : String
  targetCommit : String
  releaseSequence : Int
  securityEpoch : Int
  os : String
  arch : String
  artifactName : String
  artifactSize : Int
  artifactSHA256 : String
  deriving DecidableEq

structure RootActionReceipt where
  agentPublicID : String
  assignmentID : Nat
  campaignID : Nat
  generation : Int
  action : AssignmentAction
  commandSequence : Int
  authorizationSHA256 : String
  authorizationNonce : Bytes
  authorityKeyID : String
  authorityEpoch : Int
  activatorKeyID : String
  rootActionCounter : Int
  completedAtUnixMillis : Int
  resultKind : ResultKind
  resultManifestSHA256 : String
  resultVersion : String
  resultCommit : String
  resultReleaseSequence : Int
  resultSecurityEpoch : Int
  resultOS : String
  resultArch : String
  resultArtifactName : String
  resultArtifactSize : Int
  resultArtifactSHA256 : String
  deriving DecidableEq

structure SignedReceipt where
  value : RootActionReceipt
  canonicalPayload : Bytes
  signature : Bytes
  deriving DecidableEq

inductive ReportState where
  | downloading | staged | activated | healthy | failed | rolledBack
  deriving DecidableEq

structure Report where
  agentPublicID : String
  counter : Int
  signature : Bytes
  assignmentID : Nat
  generation : Int
  state : ReportState
  manifestSha256 : String
  binarySha256 : String
  runningVersion : String
  runningCommit : String
  failureCode : String
  failureDetail : String
  activationCounter : Int
  activationNonce : Bytes
  activatorSignature : Bytes
  rootActionReceipt : Option SignedReceipt
  deriving DecidableEq

/-- What the control plane takes from elsewhere: cryptography, the canonical
encodings with their validation, the identifier patterns, text sanitising and the
offset of the server's local time at an instant. -/
structure Primitives where
  sha256 : Bytes → String
  verify : (key payload signature : Bytes) → Bool
  sign : Authority → Bytes → Option Bytes
  authorizationPayload : AssignmentAuthorization → Option Bytes
  receiptPayload : RootActionReceipt → Option Bytes
  reportPayload : Report → Bytes
  agentPublicIDPattern : String → Bool
  hexDigestPattern : String → Bool
  boundedString : String → Nat → String
  zone : Int → Int

end P2pstream.Kernel.AgentUpdates
