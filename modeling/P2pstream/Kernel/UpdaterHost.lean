import P2pstream.Kernel.SignedPayloads
import P2pstream.Library.Durable
import P2pstream.Library.Tables

/-! The updater host: release versions, slots, the signed and unsigned records under
the state directory, and the checks on them. A slot target `slots/<name>/p2pstream` is
its name. Files of the unprivileged worker may hold anything; `none` inside a file is
content that does not parse.
-/
namespace P2pstream.Kernel.Updater
open Library.Encoding hiding Bytes
open Library Kernel.SignedPayloads
open Kernel.AgentUpdates (AssignmentAction AssignmentAuthorization Bytes ResultKind RootActionReceipt
  SignedReceipt maxSigningClockSkew minute unixMilli)

inductive Architecture where
  | amd64 | arm64
  deriving DecidableEq

def Architecture.name : Architecture → String
  | .amd64 => "amd64"
  | .arm64 => "arm64"

def operatingSystem : String := "linux"

structure VersionRange where
  min : String
  max : String
  deriving DecidableEq

structure ManifestArtifact where
  os : String
  arch : String
  name : String
  size : Int
  sha256 : String
  deriving DecidableEq

structure Manifest where
  schemaVersion : Int
  channel : String
  version : String
  commit : String
  sequence : Int
  publishedAt : Int
  expiresAt : Int
  minimumSafeVersion : String
  securityEpoch : Int
  server : VersionRange
  updater : VersionRange
  protocolMin : Int
  protocolMax : Int
  artifacts : List ManifestArtifact
  deriving DecidableEq

structure PinnedAuthority where
  keyID : String
  epoch : Int
  publicKey : Bytes
  deriving DecidableEq

/-- What the host takes from elsewhere: semantic versions, SHA-256, Ed25519, the JSON
decoder of manifests, and what bootstrap pinned once for all. -/
structure Trust where
  semverIsValid : String → Bool
  semverBuild : String → String
  semverPrerelease : String → String
  semverCompare : String → String → Int
  semverCompare_trans : ∀ a b c, 0 ≤ semverCompare a b → 0 ≤ semverCompare b c → 0 ≤ semverCompare a c
  sha256 : Bytes → Bytes
  sha256_length : ∀ data, (sha256 data).length = 32
  verify : (key payload signature : Bytes) → Bool
  decodeManifest : Bytes → Option Manifest
  authority : PinnedAuthority
  agentPublicID : String
  channel : String
  activatorPublicKey : Bytes
  activatorPublicKey_length : activatorPublicKey.length = 32
  sign : Bytes → Bytes
  sign_length : ∀ payload, (sign payload).length = 64
  verify_sign : ∀ payload, verify activatorPublicKey payload (sign payload) = true
  architecture : Architecture
  updaterVersion : String
  protocolVersion : Int

def numericIdentifier (bytes : Bytes) : Bool :=
  bytes ≠ [] && bytes.all digit && (bytes.length = 1 || !(bytes.take 1).all (oneOf ['0']))

def prereleaseIdentifier (bytes : Bytes) : Bool :=
  bytes ≠ [] && bytes.all fun byte => alphanumeric byte || oneOf ['-'] byte

/-- `v<major>.<minor>.<patch>` and optionally `-` with dot-separated identifiers. -/
def releasePattern (version : String) : Bool :=
  match text version with
  | [] => false
  | first :: bytes =>
    let core := (bytes.takeWhile (!oneOf ['-'] ·)).splitOnP (oneOf ['.'])
    oneOf ['v'] first && core.length = 3 && core.all numericIdentifier &&
      match bytes.dropWhile (!oneOf ['-'] ·) with
      | [] => true
      | _ :: prerelease => (prerelease.splitOnP (oneOf ['.'])).all prereleaseIdentifier

def hexText (data : Bytes) : String := String.ofList ((hex data).map fun byte => Char.ofNat byte.toNat)

def bootstrapPrefix : Bytes := text "bootstrap-"

def bootstrapName (accepted : UInt8 → Bool) (version : String) : Bool :=
  (text version).length = 26 && (text version).take 10 = bootstrapPrefix && ((text version).drop 10).all accepted

/-- `bootstrap-` and sixteen hexadecimal digits, in either case. -/
def isBootstrapVersion (version : String) : Bool :=
  bootstrapName (fun byte => lowerHex byte || within 'A' 'F' byte) version

def bootstrapVersionPattern (version : String) : Bool := bootstrapName lowerHex version

section Versions

variable (t : Trust)

/-- `releaseversion.Valid`. -/
def validRelease (version : String) : Bool :=
  version.utf8ByteSize ≤ 96 && releasePattern version && t.semverIsValid version && t.semverBuild version = ""

def stable (version : String) : Bool := validRelease t version && t.semverPrerelease version = ""

def prerelease (version : String) : Bool := validRelease t version && t.semverPrerelease version ≠ ""

def validForChannel (version channel : String) : Bool :=
  if channel = "stable" then stable t version
  else if channel = "staging" then prerelease t version
  else false

def validSlotTarget (target : String) : Bool := validRelease t target || isBootstrapVersion target

def digestText (data : Bytes) : String := hexText (t.sha256 data)

end Versions

structure ReleaseArtifact where
  name : String
  size : Int
  sha256 : String
  deriving DecidableEq

structure VerifiedRelease where
  version : String
  commit : String
  manifestSHA256 : String
  sequence : Int
  securityEpoch : Int
  minimumSafeVersion : String
  artifact : ReleaseArtifact
  deriving DecidableEq

structure Floor where
  sequence : Int := 0
  securityEpoch : Int := 0
  minimumSafeVersion : String := ""
  version : String := ""
  manifestSHA256 : String := ""
  deriving DecidableEq

def maxArtifactSize : Int := 536870912

/-- `^p2pstream_[v0-9A-Za-z.-]+_linux_(?:amd64|arm64)$` -/
def assetPattern (name : String) : Bool :=
  let bytes := text name
  bytes.take 10 = text "p2pstream_" && 22 < bytes.length &&
    (bytes.drop (bytes.length - 12) = text "_linux_amd64" || bytes.drop (bytes.length - 12) = text "_linux_arm64") &&
    ((bytes.drop 10).take (bytes.length - 22)).all fun byte => alphanumeric byte || oneOf ['.','-'] byte

section Releases

variable (t : Trust)

def validateVersionRange (accepted : String → Bool) (range : VersionRange) : Bool :=
  accepted range.min && accepted range.max && t.semverCompare range.min range.max ≤ 0

def validateManifestArtifact (artifact : ManifestArtifact) : Bool :=
  platformPattern artifact.os && platformPattern artifact.arch && artifactNamePattern artifact.name &&
    0 < artifact.size && artifact.size ≤ maxArtifactSize && hexDigestPattern artifact.sha256

def validateManifest (manifest : Manifest) : Bool :=
  manifest.schemaVersion = 1 && (manifest.channel = "stable" || manifest.channel = "staging") &&
    validForChannel t manifest.version manifest.channel && hexCommitPattern manifest.commit &&
    0 < manifest.sequence && manifest.publishedAt < manifest.expiresAt && stable t manifest.minimumSafeVersion &&
    0 ≤ t.semverCompare manifest.version manifest.minimumSafeVersion && 0 < manifest.securityEpoch &&
    validateVersionRange t (stable t) manifest.server && validateVersionRange t (validRelease t) manifest.updater &&
    manifest.protocolMin ≠ 0 && manifest.protocolMin ≤ manifest.protocolMax &&
    manifest.artifacts ≠ [] && manifest.artifacts.length ≤ 32 && manifest.artifacts.all validateManifestArtifact

def requireVersionInRange (version : String) (range : VersionRange) : Bool :=
  validRelease t version && 0 ≤ t.semverCompare version range.min && t.semverCompare version range.max ≤ 0

def allowedClockSkew : Int := 5 * minute

/-- `agentupdate.Verify` with the floor as policy: the release advances the floor, or
is the exact release pinned there. -/
def verifyRelease (data : Bytes) (floor : Floor) (serverVersion : String) (now : Int) : Option VerifiedRelease := do
  let manifest ← t.decodeManifest data
  guard (validateManifest t manifest)
  guard (manifest.channel = t.channel)
  guard (manifest.publishedAt ≤ now + allowedClockSkew ∧ now < manifest.expiresAt)
  let manifestSHA256 := digestText t data
  let exactRetry := 0 < floor.sequence ∧ manifest.sequence = floor.sequence ∧ manifest.version = floor.version ∧
    floor.manifestSHA256 = manifestSHA256
  guard (floor.sequence < manifest.sequence ∨ exactRetry)
  guard (floor.securityEpoch ≤ manifest.securityEpoch)
  guard (floor.minimumSafeVersion = "" ∨ (stable t floor.minimumSafeVersion ∧
    0 ≤ t.semverCompare manifest.minimumSafeVersion floor.minimumSafeVersion))
  guard (validRelease t floor.version)
  guard (0 < t.semverCompare manifest.version floor.version ∨ exactRetry)
  guard (requireVersionInRange t serverVersion manifest.server)
  guard (requireVersionInRange t t.updaterVersion manifest.updater)
  guard (manifest.protocolMin ≤ t.protocolVersion ∧ t.protocolVersion ≤ manifest.protocolMax)
  let artifact ← manifest.artifacts.find? fun artifact =>
    artifact.os = operatingSystem && artifact.arch = t.architecture.name
  pure {
    version := manifest.version
    commit := manifest.commit
    manifestSHA256
    sequence := manifest.sequence
    securityEpoch := manifest.securityEpoch
    minimumSafeVersion := manifest.minimumSafeVersion
    artifact := { name := artifact.name, size := artifact.size, sha256 := artifact.sha256 } }

def runtimeArtifactName (version : String) : String :=
  "p2pstream_" ++ version ++ "_" ++ operatingSystem ++ "_" ++ t.architecture.name

def validateRelease (release : VerifiedRelease) : Bool :=
  validRelease t release.version && hexCommitPattern release.commit && hexDigestPattern release.manifestSHA256 &&
    assetPattern release.artifact.name && 0 < release.artifact.size && release.artifact.size ≤ maxArtifactSize &&
    release.artifact.sha256 ≠ String.ofList (List.replicate 64 '0') &&
    release.artifact.name = runtimeArtifactName t release.version

def verifyArtifact (data : Bytes) (artifact : ReleaseArtifact) : Bool :=
  0 < artifact.size && artifact.size ≤ maxArtifactSize && hexDigestPattern artifact.sha256 &&
    (data.length : Int) = artifact.size && digestText t data = artifact.sha256

/-- What `loadFloor` accepts. -/
def readableFloor (floor : Floor) : Bool :=
  (floor.version = "" || validRelease t floor.version) &&
    (floor.minimumSafeVersion = "" || validRelease t floor.minimumSafeVersion) &&
    !((floor.sequence ≠ 0 || floor.securityEpoch ≠ 0) && floor.manifestSHA256 = "") &&
    (floor.manifestSHA256 = "" || (hexDigestPattern floor.manifestSHA256 && floor.sequence ≠ 0 &&
      floor.securityEpoch ≠ 0 && floor.version ≠ ""))

end Releases

structure AuthorizationRecord where
  authorization : AssignmentAuthorization
  canonicalPayload : Bytes
  signature : Bytes
  deriving DecidableEq

structure SlotMetadata where
  target : String
  resultKind : ResultKind
  manifestSHA256 : String
  version : String
  commit : String
  buildVersion : String
  buildCommit : String
  releaseSequence : Int
  securityEpoch : Int
  os : String
  arch : String
  artifactName : String
  artifactSize : Int
  artifactSHA256 : String
  deriving DecidableEq

/-- The activation command: `ready.json`, and its claim by the activator. -/
structure Ready where
  authorization : AuthorizationRecord
  agentPublicID : String
  assignmentID : Nat
  generation : Int
  nonce : Bytes
  version : String
  commit : String
  manifestSHA : String
  sequence : Int
  securityEpoch : Int
  artifactName : String
  artifactSize : Int
  artifactSHA : String
  serverVersion : String
  deriving DecidableEq

structure StagedRecord where
  version : String
  commit : String
  manifestSHA : String
  sequence : Int
  securityEpoch : Int
  artifactName : String
  artifactSize : Int
  artifactSHA : String
  serverVersion : String
  deriving DecidableEq

structure CommandFloor where
  sequence : Int := 0
  authorizationSHA256 : String := ""
  deriving DecidableEq

structure CompletedActivation where
  authorization : AuthorizationRecord
  receipt : SignedReceipt
  previousSlot : SlotMetadata
  activatedSlot : SlotMetadata
  deriving DecidableEq

structure RollbackRecord where
  authorization : AuthorizationRecord
  receipt : SignedReceipt
  deriving DecidableEq

inductive ActivationPhase where
  | prepared | switched | healthy
  deriving DecidableEq

structure ActivationJournal where
  phase : ActivationPhase
  previousTarget : String
  candidateTarget : String
  version : String
  sequence : Int
  securityEpoch : Int
  minimumSafeVersion : String
  authorization : AuthorizationRecord
  authorizationSHA : String
  previousSlot : SlotMetadata
  receipt : Option SignedReceipt
  deriving DecidableEq

/-- The number of the command that a journal is for. -/
abbrev ActivationJournal.command (journal : ActivationJournal) : Int := journal.authorization.authorization.commandSequence

inductive RollbackPhase where
  | prepared | switched | completed
  deriving DecidableEq

structure RollbackJournal where
  phase : RollbackPhase
  authorization : AuthorizationRecord
  authorizationSHA : String
  fromSlot : SlotMetadata
  toSlot : SlotMetadata
  receipt : Option SignedReceipt
  deriving DecidableEq

abbrev RollbackJournal.command (journal : RollbackJournal) : Int := journal.authorization.authorization.commandSequence

structure FailureRecord where
  code : String
  assignmentID : Nat
  generation : Int
  deriving DecidableEq

structure Executable where
  published : Bool
  size : Int
  sha256 : String
  deriving DecidableEq

/-- A slot directory. `published` is mode 0755, `owned` that nobody but the activator
can write to it and that it holds nothing but the managed executable. -/
structure Slot where
  published : Bool
  owned : Bool
  executable : Option Executable
  deriving DecidableEq

structure Staging where
  ready : Option (Option Ready) := none
  staged : Option (Option StagedRecord) := none
  manifest : Option Bytes := none
  artifact : Option Bytes := none
  rollback : Option (Option AuthorizationRecord) := none
  receipt : Option (Option SignedReceipt) := none
  rollbackResult : Option (Option RollbackRecord) := none
  failure : Option FailureRecord := none

structure Root where
  current : Option String
  slots : Table String Slot
  metadata : Option SlotMetadata
  previous : Option SlotMetadata
  journal : Option ActivationJournal
  rollbackJournal : Option RollbackJournal
  lastActivation : Option CompletedActivation
  lastRollback : Option RollbackRecord
  commandFloor : Option CommandFloor
  counter : Option Int
  floor : Option Floor

structure Host extends Root where
  now : Int
  staging : Staging
  activationClaim : Option (Option Ready)
  rollbackClaim : Option (Option AuthorizationRecord)

section Loading

variable (t : Trust)

def loadFloor (h : Root) : Option Floor :=
  match h.floor with
  | none => some {}
  | some floor => if readableFloor t floor then some floor else none

def loadRootCommandFloor (h : Root) : Option CommandFloor :=
  match h.commandFloor with
  | none => some {}
  | some floor => if floor.sequence ≠ 0 && hexDigestPattern floor.authorizationSHA256 then some floor else none

def loadRootActionCounter (h : Root) : Int := h.counter.getD 0

def currentTarget (h : Root) : Option String := h.current.filter (validSlotTarget t)

def validateSlotMetadata (slot : SlotMetadata) : Bool :=
  validSlotTarget t slot.target && slot.os ≠ "" && slot.arch ≠ "" && slot.artifactName ≠ "" &&
    0 < slot.artifactSize && hexDigestPattern slot.artifactSHA256 &&
    match slot.resultKind with
    | .release =>
      validRelease t slot.version && hexCommitPattern slot.commit && hexDigestPattern slot.manifestSHA256 &&
        slot.buildVersion = slot.version && slot.buildCommit = slot.commit && slot.releaseSequence ≠ 0 &&
        slot.securityEpoch ≠ 0
    | .bootstrap =>
      bootstrapVersionPattern slot.version && slot.manifestSHA256 = "" && slot.releaseSequence = 0 &&
        slot.securityEpoch = 0 && slot.commit = "" && validRelease t slot.buildVersion &&
        hexCommitPattern slot.buildCommit

def loadCurrentSlotMetadata (h : Root) (target : String) : Option SlotMetadata :=
  h.metadata.filter fun slot => validateSlotMetadata t slot && slot.target = target

/-- `AssignmentAuthorizationDigest` in hexadecimal. -/
def authorizationDigest (value : AssignmentAuthorization) : Option String :=
  (assignmentAuthorizationPayload t.semverIsValid value).map (digestText t)

def sameAssignmentAuthorizationRecord (left right : AuthorizationRecord) : Bool :=
  left.canonicalPayload = right.canonicalPayload && left.signature = right.signature

def verifyKeyAndSignature (publicKey : Bytes) (expectedID : String) (payload signature : Bytes) : Bool :=
  publicKey.length = 32 && digestText t publicKey = expectedID && signature.length = 64 &&
    t.verify publicKey payload signature

def verifyAssignmentAuthorization (value : AssignmentAuthorization) (signature : Bytes)
    (expectedAction : AssignmentAction) (now lastCommandSequence : Int) : Bool :=
  match assignmentAuthorizationPayload t.semverIsValid value with
  | none => false
  | some payload =>
    verifyKeyAndSignature t t.authority.publicKey value.authorityKeyID payload signature &&
      agentPublicIDPattern t.agentPublicID && t.authority.epoch ≠ 0 &&
      value.issuedAtUnixMillis ≤ unixMilli (now + maxSigningClockSkew) && unixMilli now < value.expiresAtUnixMillis &&
      value.agentPublicID = t.agentPublicID && value.action = expectedAction &&
      value.authorityEpoch = t.authority.epoch && lastCommandSequence < value.commandSequence

def verifyAssignmentAuthorizationRecord (record : AuthorizationRecord) (expectedAction : AssignmentAction)
    (now lastSequence : Int) : Bool :=
  assignmentAuthorizationPayload t.semverIsValid record.authorization = some record.canonicalPayload &&
    (t.authority.epoch ≠ 0 && t.authority.publicKey.length = 32 &&
      digestText t t.authority.publicKey = t.authority.keyID) &&
    verifyAssignmentAuthorization t record.authorization record.signature expectedAction now lastSequence &&
    record.authorization.authorityKeyID = t.authority.keyID

/-- `VerifyRootActionReceipt` under the policy of the authorization. -/
def verifyRootActionReceipt (value : RootActionReceipt) (signature : Bytes) (a : AssignmentAuthorization)
    (authorizationSHA256 : String) (now lastRootActionCounter : Int) : Bool :=
  match rootActionReceiptPayload t.semverIsValid value with
  | none => false
  | some payload =>
    verifyKeyAndSignature t t.activatorPublicKey value.activatorKeyID payload signature &&
      agentPublicIDPattern a.agentPublicID && hexDigestPattern authorizationSHA256 &&
      hexDigestPattern a.authorityKeyID && a.authorityEpoch ≠ 0 &&
      value.completedAtUnixMillis ≤ unixMilli (now + maxSigningClockSkew) &&
      value.agentPublicID = a.agentPublicID && value.action = a.action &&
      value.authorizationSHA256 = authorizationSHA256 && value.authorityKeyID = a.authorityKeyID &&
      value.authorityEpoch = a.authorityEpoch && lastRootActionCounter < value.rootActionCounter

def verifyRootActionReceiptRecord (record : SignedReceipt) (authorization : AuthorizationRecord)
    (previous now : Int) : Bool :=
  rootActionReceiptPayload t.semverIsValid record.value = some record.canonicalPayload &&
    match authorizationDigest t authorization.authorization with
    | none => false
    | some digest =>
      record.value.assignmentID = authorization.authorization.assignmentID &&
        record.value.campaignID = authorization.authorization.campaignID &&
        record.value.generation = authorization.authorization.generation &&
        record.value.commandSequence = authorization.authorization.commandSequence &&
        record.value.authorizationNonce = authorization.authorization.nonce &&
        verifyRootActionReceipt t record.value record.signature authorization.authorization digest now previous

def verifyRootActionReceiptForWorker (record : SignedReceipt) (action : AssignmentAction) : Bool :=
  rootActionReceiptPayload t.semverIsValid record.value = some record.canonicalPayload &&
    record.value.action = action &&
    verifyKeyAndSignature t t.activatorPublicKey record.value.activatorKeyID record.canonicalPayload record.signature

end Loading

end P2pstream.Kernel.Updater
