import P2pstream.Kernel.AgentUpdates
import P2pstream.Library.Encoding

/-! The application-signature protocol of managed updates: the canonical bytes of the
six signed messages and the validation that precedes three of them. Semantic version
syntax is a parameter.
-/
namespace P2pstream.Kernel.SignedPayloads
open Library.Encoding hiding Bytes
open Kernel.AgentUpdates (AssignmentAction AssignmentAuthorization Bytes ResultKind RootActionReceipt
  maxInt64)

def domain : Bytes := text "p2pstream-agent-update-control-v1" ++ [0]

def record (method : Bytes) (values : List Bytes) : Bytes := domain ++ fields 4 (method :: values)

def within (low high : Char) (byte : UInt8) : Bool := low.toNat ≤ byte.toNat && byte.toNat ≤ high.toNat

def oneOf (chars : List Char) (byte : UInt8) : Bool := chars.any fun char => char.toNat = byte.toNat

def digit (byte : UInt8) : Bool := within '0' '9' byte

def lowerHex (byte : UInt8) : Bool := digit byte || within 'a' 'f' byte

def lowerAlphanumeric (byte : UInt8) : Bool := digit byte || within 'a' 'z' byte

def alphanumeric (byte : UInt8) : Bool := lowerAlphanumeric byte || within 'A' 'Z' byte

def hexPattern (size : Nat) (value : String) : Bool := (text value).length = size && (text value).all lowerHex

def hexDigestPattern (value : String) : Bool := hexPattern 64 value

def hexCommitPattern (value : String) : Bool := hexPattern 40 value

/-- One leading character and at most `limit` further ones. -/
def namePattern (first rest : UInt8 → Bool) (limit : Nat) (value : String) : Bool :=
  match text value with
  | [] => false
  | byte :: bytes => first byte && bytes.all rest && bytes.length ≤ limit

def agentPublicIDPattern (value : String) : Bool :=
  namePattern alphanumeric (fun byte => alphanumeric byte || oneOf ['_','.',':','-'] byte) 127 value

def platformPattern (value : String) : Bool :=
  namePattern lowerAlphanumeric (fun byte => lowerAlphanumeric byte || oneOf ['.','_','-'] byte) 31 value

def artifactNamePattern (value : String) : Bool :=
  namePattern alphanumeric (fun byte => alphanumeric byte || oneOf ['.','_','-'] byte) 127 value

def repositoryPart (value : Bytes) : Bool :=
  value ≠ [] && value.length ≤ 100 && value.all fun byte => alphanumeric byte || oneOf ['_','.','-'] byte

def slash (byte : UInt8) : Bool := byte.toNat = '/'.toNat

def pinnedRepositoryPattern (value : String) : Bool :=
  repositoryPart ((text value).takeWhile (!slash ·)) &&
    match (text value).dropWhile (!slash ·) with
    | [] => false
    | _ :: name => repositoryPart name

/-- 9999-12-31T23:59:59.999Z is the largest canonical application time. -/
def validUnixMillis (value : Int) : Bool := 0 < value && value ≤ 253402300799999

def validateInterval (start finish maximum : Int) : Bool :=
  validUnixMillis start && validUnixMillis finish && start < finish && finish - start ≤ maximum

def maxLifetimeMillis : Int := 86400000

def positive (value : Int) : Bool := 0 < value && value ≤ maxInt64

def validateArtifact (os arch name : String) (size : Int) (digest : String) : Bool :=
  platformPattern os && platformPattern arch && artifactNamePattern name && 0 < size && size ≤ 536870912 &&
    hexDigestPattern digest

structure EnrollmentReceipt where
  agentPublicID : String
  updaterKeyID : String
  updaterPublicKeySHA256 : String
  activatorKeyID : String
  activatorPublicKeySHA256 : String
  os : String
  arch : String
  updaterVersion : String
  pinnedRepository : String
  authorityKeyID : String
  authorityEpoch : Int
  enrolledAtUnixMillis : Int
  expiresAtUnixMillis : Int
  generation : Int
  deriving DecidableEq

section Validators

variable (semverIsValid : String → Bool)

def validVersion (version : String) : Bool := version.utf8ByteSize ≤ 128 && semverIsValid version

def validateAssignmentAuthorization (value : AssignmentAuthorization) : Bool :=
  agentPublicIDPattern value.agentPublicID && 0 < value.assignmentID && 0 < value.campaignID &&
    0 < value.generation && positive value.commandSequence && value.nonce.length = 32 &&
    validateInterval value.issuedAtUnixMillis value.expiresAtUnixMillis maxLifetimeMillis &&
    hexDigestPattern value.authorityKeyID && positive value.authorityEpoch &&
    validVersion semverIsValid value.serverVersion && hexDigestPattern value.manifestSHA256 &&
    validVersion semverIsValid value.targetVersion && hexCommitPattern value.targetCommit &&
    positive value.releaseSequence && positive value.securityEpoch &&
    validateArtifact value.os value.arch value.artifactName value.artifactSize value.artifactSHA256

def validateEnrollmentReceipt (value : EnrollmentReceipt) : Bool :=
  agentPublicIDPattern value.agentPublicID && hexDigestPattern value.updaterKeyID &&
    hexDigestPattern value.updaterPublicKeySHA256 && hexDigestPattern value.activatorKeyID &&
    hexDigestPattern value.activatorPublicKeySHA256 && value.updaterKeyID = value.updaterPublicKeySHA256 &&
    value.activatorKeyID = value.activatorPublicKeySHA256 && value.updaterKeyID ≠ value.activatorKeyID &&
    platformPattern value.os && platformPattern value.arch && validVersion semverIsValid value.updaterVersion &&
    pinnedRepositoryPattern value.pinnedRepository && hexDigestPattern value.authorityKeyID &&
    positive value.authorityEpoch && positive value.generation &&
    validateInterval value.enrolledAtUnixMillis value.expiresAtUnixMillis maxLifetimeMillis

def validateResult (value : RootActionReceipt) : Bool :=
  match value.resultKind with
  | .release =>
    hexDigestPattern value.resultManifestSHA256 && validVersion semverIsValid value.resultVersion &&
      hexCommitPattern value.resultCommit && positive value.resultReleaseSequence &&
      positive value.resultSecurityEpoch
  | .bootstrap =>
    value.action = .rollback && value.resultManifestSHA256 = "" && value.resultReleaseSequence = 0 &&
      value.resultSecurityEpoch = 0 && validVersion semverIsValid value.resultVersion &&
      hexCommitPattern value.resultCommit

def validateRootActionReceipt (value : RootActionReceipt) : Bool :=
  agentPublicIDPattern value.agentPublicID && 0 < value.assignmentID && 0 < value.campaignID &&
    0 < value.generation && positive value.commandSequence && value.authorizationNonce.length = 32 &&
    hexDigestPattern value.authorizationSHA256 && hexDigestPattern value.authorityKeyID &&
    positive value.authorityEpoch && hexDigestPattern value.activatorKeyID && positive value.rootActionCounter &&
    validUnixMillis value.completedAtUnixMillis && validateResult semverIsValid value &&
    validateArtifact value.resultOS value.resultArch value.resultArtifactName value.resultArtifactSize
      value.resultArtifactSHA256

end Validators

structure Check where
  agentPublicID : Bytes
  counter : Int
  deriving DecidableEq

structure Report where
  agentPublicID : Bytes
  counter : Int
  assignmentID : Int
  generation : Int
  state : Int
  manifestSHA256 : Bytes
  binarySHA256 : Bytes
  runningVersion : Bytes
  runningCommit : Bytes
  failureCode : Bytes
  failureDetail : Bytes
  activationCounter : Int
  activationNonce : Bytes
  activatorSignature : Bytes
  deriving DecidableEq

structure Activation where
  agentPublicID : Bytes
  assignmentID : Int
  generation : Int
  counter : Int
  nonce : Bytes
  manifestSHA256 : Bytes
  targetVersion : Bytes
  targetCommit : Bytes
  releaseSequence : Int
  securityEpoch : Int
  os : Bytes
  arch : Bytes
  artifactName : Bytes
  artifactSize : Int
  artifactSHA256 : Bytes
  deriving DecidableEq

def actionText : AssignmentAction → String
  | .activate => "activate"
  | .rollback => "rollback"

def resultKindText : ResultKind → String
  | .release => "release"
  | .bootstrap => "bootstrap"

def checkValues (value : Check) : List Bytes := [value.agentPublicID,formatInt value.counter]

def checkPayload (value : Check) : Bytes := record (text "updater-check") (checkValues value)

def reportValues (value : Report) : List Bytes :=
  [value.agentPublicID,formatInt value.counter,formatInt value.assignmentID,formatInt value.generation,
    formatInt value.state,value.manifestSHA256,value.binarySHA256,value.runningVersion,value.runningCommit,
    value.failureCode,value.failureDetail,formatInt value.activationCounter,hex value.activationNonce,
    hex value.activatorSignature]

def reportPayload (value : Report) : Bytes := record (text "updater-report") (reportValues value)

def activationValues (value : Activation) : List Bytes :=
  [value.agentPublicID,formatInt value.assignmentID,formatInt value.generation,formatInt value.counter,
    hex value.nonce,value.manifestSHA256,value.targetVersion,value.targetCommit,formatInt value.releaseSequence,
    formatInt value.securityEpoch,value.os,value.arch,value.artifactName,formatInt value.artifactSize,
    value.artifactSHA256]

def activationPayload (value : Activation) : Bytes := record (text "root-activation") (activationValues value)

def assignmentAuthorizationValues (value : AssignmentAuthorization) : List Bytes :=
  [text value.agentPublicID,formatInt value.assignmentID,formatInt value.campaignID,formatInt value.generation,
    text (actionText value.action),formatInt value.commandSequence,hex value.nonce,
    formatInt value.issuedAtUnixMillis,formatInt value.expiresAtUnixMillis,text value.authorityKeyID,
    formatInt value.authorityEpoch,text value.serverVersion,text value.manifestSHA256,text value.targetVersion,
    text value.targetCommit,formatInt value.releaseSequence,formatInt value.securityEpoch,text value.os,
    text value.arch,text value.artifactName,formatInt value.artifactSize,text value.artifactSHA256]

def enrollmentReceiptValues (value : EnrollmentReceipt) : List Bytes :=
  [text value.agentPublicID,text value.updaterKeyID,text value.updaterPublicKeySHA256,text value.activatorKeyID,
    text value.activatorPublicKeySHA256,text value.os,text value.arch,text value.updaterVersion,
    text value.pinnedRepository,text value.authorityKeyID,formatInt value.authorityEpoch,
    formatInt value.enrolledAtUnixMillis,formatInt value.expiresAtUnixMillis,formatInt value.generation]

def rootActionReceiptValues (value : RootActionReceipt) : List Bytes :=
  [text value.agentPublicID,formatInt value.assignmentID,formatInt value.campaignID,formatInt value.generation,
    text (actionText value.action),formatInt value.commandSequence,text value.authorizationSHA256,
    hex value.authorizationNonce,text value.authorityKeyID,formatInt value.authorityEpoch,
    text value.activatorKeyID,formatInt value.rootActionCounter,formatInt value.completedAtUnixMillis,
    text (resultKindText value.resultKind),text value.resultManifestSHA256,text value.resultVersion,
    text value.resultCommit,formatInt value.resultReleaseSequence,formatInt value.resultSecurityEpoch,
    text value.resultOS,text value.resultArch,text value.resultArtifactName,formatInt value.resultArtifactSize,
    text value.resultArtifactSHA256]

section Payloads

variable (semverIsValid : String → Bool)

def assignmentAuthorizationPayload (value : AssignmentAuthorization) : Option Bytes := do
  guard (validateAssignmentAuthorization semverIsValid value)
  pure (record (text "management-assignment-authorization") (assignmentAuthorizationValues value))

def enrollmentReceiptPayload (value : EnrollmentReceipt) : Option Bytes := do
  guard (validateEnrollmentReceipt semverIsValid value)
  pure (record (text "management-enrollment-receipt") (enrollmentReceiptValues value))

def rootActionReceiptPayload (value : RootActionReceipt) : Option Bytes := do
  guard (validateRootActionReceipt semverIsValid value)
  pure (record (text "root-action-receipt") (rootActionReceiptValues value))

end Payloads

inductive Message where
  | check (value : Check)
  | report (value : Report)
  | activation (value : Activation)
  | assignmentAuthorization (value : AssignmentAuthorization)
  | enrollmentReceipt (value : EnrollmentReceipt)
  | rootActionReceipt (value : RootActionReceipt)
  deriving DecidableEq

def Message.payload (semverIsValid : String → Bool) : Message → Option Bytes
  | .check value => some (checkPayload value)
  | .report value => some (reportPayload value)
  | .activation value => some (activationPayload value)
  | .assignmentAuthorization value => assignmentAuthorizationPayload semverIsValid value
  | .enrollmentReceipt value => enrollmentReceiptPayload semverIsValid value
  | .rootActionReceipt value => rootActionReceiptPayload semverIsValid value

end P2pstream.Kernel.SignedPayloads
