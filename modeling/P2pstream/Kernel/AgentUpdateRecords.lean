import P2pstream.Kernel.AgentUpdates

/-! Signed records of managed updates: the authorization rebuilt from a stored row,
and the checks of a root action receipt against it.
-/
namespace P2pstream.Kernel.AgentUpdates

variable (p : Primitives)

def campaignAllowsAgentUpdateAuthorization (campaign : CampaignState) : DesiredAction → Bool
  | .activate => campaign = .running
  | .rollback => campaign = .running || campaign = .cancelled
  | _ => false

def assignmentAuthorization (identity : Identity) (row : Assignment) (campaign : Campaign) (artifact : Artifact)
    (action : AssignmentAction) (stored : Authorization) (issuedAt expiresAt : Int) : AssignmentAuthorization where
  agentPublicID := identity.agentPublicID
  assignmentID := row.id
  campaignID := row.campaignID
  generation := row.generation
  action := action
  commandSequence := stored.commandSequence
  nonce := stored.nonce
  issuedAtUnixMillis := unixMilli issuedAt
  expiresAtUnixMillis := unixMilli expiresAt
  authorityKeyID := identity.authorityKeyID
  authorityEpoch := identity.authorityEpoch
  serverVersion := stored.serverVersion
  manifestSHA256 := campaign.target.manifestSha256
  targetVersion := campaign.target.version
  targetCommit := campaign.target.commit
  releaseSequence := campaign.target.releaseSequence
  securityEpoch := campaign.target.securityEpoch
  os := identity.os
  arch := identity.arch
  artifactName := artifact.name
  artifactSize := artifact.sizeBytes
  artifactSHA256 := artifact.sha256

/-- The stored authorization, if the row still reproduces its canonical bytes. -/
def storedAssignmentAuthorization (row : Assignment) (campaign : Campaign) (identity : Identity) :
    Option AssignmentAuthorization := do
  let action ← row.authorization.action
  let issuedAt ← row.authorization.issuedAt
  let expiresAt ← row.authorization.expiresAt
  guard (row.authorization.commandSequence > 0)
  let artifact ← artifactForPlatform campaign.target.artifacts identity.os identity.arch
  let value := assignmentAuthorization identity row campaign artifact action row.authorization issuedAt expiresAt
  let payload ← p.authorizationPayload value
  guard (payload = row.authorization.payload ∧ row.authorization.signature.length = 64)
  guard (p.sha256 payload = row.authorization.sha256)
  pure value

/-- The authority is usable and is the one the updater identity is pinned to. -/
def pinnedTo (authority : Authority) (identity : Identity) : Bool :=
  0 < authority.epoch && authority.epoch ≤ maxInt64 && authority.publicKey.length = 32 && authority.keyID ≠ "" &&
    identity.authorityKeyID = authority.keyID && 0 < identity.authorityEpoch && identity.authorityEpoch = authority.epoch

/-- Sign the next command for an assignment: the columns to store. The identity's
command sequence advances with it. -/
def issueAssignmentAuthorization (authority : Authority) (identity : Identity) (row : Assignment)
    (campaign : Campaign) (action : AssignmentAction) (serverVersion : String) (nonce : Bytes) (now : Int) :
    Option Authorization := do
  guard (pinnedTo authority identity)
  let artifact ← artifactForPlatform campaign.target.artifacts identity.os identity.arch
  guard (0 ≤ identity.lastCommandSequence ∧ identity.lastCommandSequence < maxInt64 ∧ identity.enabled)
  let issuedAt := truncate now
  let expiresAt := issuedAt + maxAuthorizationLifetime
  let unsigned : Authorization := {
    action := some action
    serverVersion
    commandSequence := identity.lastCommandSequence + 1
    nonce
    issuedAt := some issuedAt
    expiresAt := some expiresAt }
  let payload ← p.authorizationPayload
    (assignmentAuthorization identity row campaign artifact action unsigned issuedAt expiresAt)
  let signature ← p.sign authority payload
  pure { unsigned with payload, signature, sha256 := p.sha256 payload }

/-- `rootActionReceiptFromProto`: the canonical bytes are those of the fields. -/
def rootActionReceiptCanonical (receipt : SignedReceipt) : Bool :=
  p.receiptPayload receipt.value = some receipt.canonicalPayload && receipt.signature.length = 64

def verifyKeyAndSignature (publicKey : Bytes) (expectedID : String) (payload signature : Bytes) : Bool :=
  publicKey.length = 32 && p.sha256 publicKey = expectedID && signature.length = 64 &&
    p.verify publicKey payload signature

def verifyRootActionReceipt (identity : Identity) (receipt : SignedReceipt) (expected : AssignmentAction)
    (authorizationSHA256 : String) (now : Int) : Bool :=
  verifyKeyAndSignature p identity.activatorPublicKey receipt.value.activatorKeyID receipt.canonicalPayload
      receipt.signature &&
    p.agentPublicIDPattern identity.agentPublicID && p.hexDigestPattern authorizationSHA256 &&
    p.hexDigestPattern identity.authorityKeyID && identity.authorityEpoch ≠ 0 &&
    receipt.value.completedAtUnixMillis ≤ unixMilli (now + maxSigningClockSkew) &&
    receipt.value.agentPublicID = identity.agentPublicID && receipt.value.action = expected &&
    receipt.value.authorizationSHA256 = authorizationSHA256 &&
    receipt.value.authorityKeyID = identity.authorityKeyID && receipt.value.authorityEpoch = identity.authorityEpoch &&
    receipt.value.rootActionCounter > identity.lastRootActionCounter

/-- The receipt names the active authorization and completed within its lifetime. -/
def receiptMatchesAuthorization (identity : Identity) (row : Assignment) (authorization : AssignmentAuthorization)
    (receipt : RootActionReceipt) (expected : AssignmentAction) : Bool :=
  authorization.action = expected && receipt.assignmentID = row.id && receipt.campaignID = row.campaignID &&
    receipt.generation = row.generation && receipt.commandSequence = authorization.commandSequence &&
    receipt.authorizationNonce = authorization.nonce && receipt.activatorKeyID = identity.activatorKeyID &&
    authorization.issuedAtUnixMillis ≤ receipt.completedAtUnixMillis &&
    receipt.completedAtUnixMillis ≤ authorization.expiresAtUnixMillis

/-- The result of an activation is the campaign target on the enrolled platform. -/
def receiptMatchesTarget (identity : Identity) (target : Target) (receipt : RootActionReceipt) : Bool :=
  match artifactForPlatform target.artifacts identity.os identity.arch with
  | none => false
  | some artifact =>
    receipt.resultKind = .release && receipt.resultManifestSHA256 = target.manifestSha256 &&
      receipt.resultVersion = target.version && receipt.resultCommit = target.commit &&
      receipt.resultReleaseSequence = target.releaseSequence && receipt.resultSecurityEpoch = target.securityEpoch &&
      receipt.resultOS = identity.os && receipt.resultArch = identity.arch &&
      receipt.resultArtifactName = artifact.name && receipt.resultArtifactSize = artifact.sizeBytes &&
      receipt.resultArtifactSHA256 = artifact.sha256

def receiptLeavesTarget (identity : Identity) (target : Target) (receipt : RootActionReceipt) : Bool :=
  receipt.resultOS = identity.os && receipt.resultArch = identity.arch &&
    match artifactForPlatform target.artifacts identity.os identity.arch with
    | none => true
    | some artifact => !(receipt.resultKind = .release && receipt.resultVersion = target.version &&
        receipt.resultCommit = target.commit && receipt.resultArtifactSHA256 = artifact.sha256)

def verifyAgentUpdateRootActionReceipt (identity : Identity) (row : Assignment) (campaign : Campaign)
    (receipt : SignedReceipt) (expected : AssignmentAction) (now : Int) : Bool :=
  rootActionReceiptCanonical p receipt &&
    match storedAssignmentAuthorization p row campaign identity with
    | none => false
    | some authorization =>
      receiptMatchesAuthorization identity row authorization receipt.value expected &&
        verifyRootActionReceipt p identity receipt expected row.authorization.sha256 now &&
        match expected with
        | .activate => receiptMatchesTarget identity campaign.target receipt.value
        | .rollback => receiptLeavesTarget identity campaign.target receipt.value

def agentUpdateReportMatchesRootResult (report : Report) (receipt : RootActionReceipt) : Bool :=
  report.manifestSha256 = receipt.resultManifestSHA256 && report.binarySha256 = receipt.resultArtifactSHA256 &&
    report.runningVersion = receipt.resultVersion && report.runningCommit = receipt.resultCommit

def storedRootResult (receipt : SignedReceipt) (now : Int) : RootResult where
  counter := receipt.value.rootActionCounter
  receiptPayload := receipt.canonicalPayload
  receiptSignature := receipt.signature
  completedAt := some now
  kind := some receipt.value.resultKind
  manifestSha256 := receipt.value.resultManifestSHA256
  version := receipt.value.resultVersion
  commit := receipt.value.resultCommit
  releaseSequence := receipt.value.resultReleaseSequence
  securityEpoch := receipt.value.resultSecurityEpoch
  os := receipt.value.resultOS
  arch := receipt.value.resultArch
  artifactName := receipt.value.resultArtifactName
  artifactSize := receipt.value.resultArtifactSize
  artifactSha256 := receipt.value.resultArtifactSHA256

end P2pstream.Kernel.AgentUpdates
