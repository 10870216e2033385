import P2pstream.Kernel.UpdaterHost

/-! Building blocks of the activator: the durable writes shared by activation and
rollback, receipts, the clean-up of commands and the pruning of slots.
-/
namespace P2pstream.Kernel.Updater
open Library.Encoding hiding Bytes
open Library Library.Durable Kernel.SignedPayloads
open Kernel.AgentUpdates (AssignmentAction AssignmentAuthorization Bytes RootActionReceipt SignedReceipt
  unixMilli)

inductive HostEvent where
  | tick
  | asked (answer : Bool)
  | consumed (sequence : Int)
  | switched (sequence : Int) (forward : Bool) (target : String)
  | counted (sequence counter : Int)
  | persistedFloor (floor : Floor)
  | refused (sequence : Int)
  | wrote
  deriving DecidableEq

abbrev Action (α : Type) := Program Host HostEvent α

def readClock : Action Int := do
  wait .tick fun reading h => { h with now := max h.now reading }
  let h ← get
  pure h.now

def restartAndCheck : Action Bool := do
  let restarted ← ask .asked
  if restarted then ask .asked else pure false

section Actions

variable (t : Trust)

/-- Point `current` at a slot on behalf of a command; not `forward` when a slot is restored. -/
def switchCurrent (sequence : Int) (forward : Bool) (target : String) : Action Unit := do
  check (validSlotTarget t target)
  write (.switched sequence forward target) fun h => { h with current := some target }

def writeJournal (journal : ActivationJournal) : Action Unit := do
  check (validSlotTarget t journal.previousTarget && validSlotTarget t journal.candidateTarget)
  write .wrote fun h => { h with journal := some journal }

def removeJournal (event : HostEvent) : Action Unit := write event fun h => { h with journal := none }

def consumeAssignmentAuthorization (record : AuthorizationRecord) (action : AssignmentAction) (now : Int) :
    Action String := do
  let h ← get
  let floor ← require (loadRootCommandFloor h.toRoot)
  check (verifyAssignmentAuthorizationRecord t record action now floor.sequence)
  let digest ← require (authorizationDigest t record.authorization)
  write (.consumed record.authorization.commandSequence) fun h => { h with
    commandFloor := some {
      sequence := record.authorization.commandSequence
      authorizationSHA256 := digest } }
  pure digest

def validateExistingSlot (slot : Slot) (artifact : ReleaseArtifact) : Bool :=
  slot.published &&
    match slot.executable with
    | none => false
    | some file => file.published && file.size = artifact.size && file.sha256 = artifact.sha256

def installedSlot (artifact : ReleaseArtifact) : Slot where
  published := true
  owned := true
  executable := some { published := true, size := artifact.size, sha256 := artifact.sha256 }

def installSlot (release : VerifiedRelease) (artifact : Bytes) : Action Unit := do
  let h ← get
  match h.slots.lookup release.version with
  | some slot => check (validateExistingSlot slot release.artifact)
  | none =>
    check ((artifact.length : Int) = release.artifact.size && digestText t artifact = release.artifact.sha256)
    write .wrote fun h => { h with slots := h.slots.insert release.version (installedSlot release.artifact) }

def releaseSlotMetadata (release : VerifiedRelease) : SlotMetadata where
  target := release.version
  resultKind := .release
  manifestSHA256 := release.manifestSHA256
  version := release.version
  commit := release.commit
  buildVersion := release.version
  buildCommit := release.commit
  releaseSequence := release.sequence
  securityEpoch := release.securityEpoch
  os := operatingSystem
  arch := t.architecture.name
  artifactName := release.artifact.name
  artifactSize := release.artifact.size
  artifactSHA256 := release.artifact.sha256

def receiptResultMatchesSlot (receipt : RootActionReceipt) (slot : SlotMetadata) : Bool :=
  receipt.resultKind = slot.resultKind && receipt.resultManifestSHA256 = slot.manifestSHA256 &&
    receipt.resultVersion = slot.buildVersion && receipt.resultCommit = slot.buildCommit &&
    receipt.resultReleaseSequence = slot.releaseSequence && receipt.resultSecurityEpoch = slot.securityEpoch &&
    receipt.resultOS = slot.os && receipt.resultArch = slot.arch && receipt.resultArtifactName = slot.artifactName &&
    receipt.resultArtifactSize = slot.artifactSize && receipt.resultArtifactSHA256 = slot.artifactSHA256

def rootActionReceipt (a : AssignmentAuthorization) (authorizationSHA : String) (result : SlotMetadata)
    (counter now : Int) : RootActionReceipt where
  agentPublicID := a.agentPublicID
  assignmentID := a.assignmentID
  campaignID := a.campaignID
  generation := a.generation
  action := a.action
  commandSequence := a.commandSequence
  authorizationSHA256 := authorizationSHA
  authorizationNonce := a.nonce
  authorityKeyID := a.authorityKeyID
  authorityEpoch := a.authorityEpoch
  activatorKeyID := digestText t t.activatorPublicKey
  rootActionCounter := counter
  completedAtUnixMillis := unixMilli now
  resultKind := result.resultKind
  resultManifestSHA256 := result.manifestSHA256
  resultVersion := result.buildVersion
  resultCommit := result.buildCommit
  resultReleaseSequence := result.releaseSequence
  resultSecurityEpoch := result.securityEpoch
  resultOS := result.os
  resultArch := result.arch
  resultArtifactName := result.artifactName
  resultArtifactSize := result.artifactSize
  resultArtifactSHA256 := result.artifactSHA256

def createRootActionReceipt (authorization : AuthorizationRecord) (authorizationSHA : String)
    (result : SlotMetadata) : Action SignedReceipt := do
  check (validateSlotMetadata t result)
  let digest ← require (authorizationDigest t authorization.authorization)
  check (authorizationSHA = digest)
  let h ← get
  let previous := loadRootActionCounter h.toRoot
  check (previous ≠ 2 ^ 64 - 1)
  let completed ← readClock
  let value := rootActionReceipt t authorization.authorization authorizationSHA result (previous + 1) completed
  let payload ← require (rootActionReceiptPayload t.semverIsValid value)
  let record : SignedReceipt := { value, canonicalPayload := payload, signature := t.sign payload }
  let verified ← readClock
  check (verifyRootActionReceiptRecord t record authorization previous verified)
  pure record

def removeActivationClaim : Action Unit := write .wrote fun h => { h with activationClaim := none }

def removeLiveReady : Action Unit := write .wrote fun h => { h with staging := { h.staging with ready := none } }

/-- Remove the claim if it still is the command that was carried out. -/
def removeOldClaim (expected : AuthorizationRecord) : Action Unit := do
  let h ← get
  match h.activationClaim with
  | some (some ready) =>
    if sameAssignmentAuthorizationRecord ready.authorization expected then removeActivationClaim else pure ()
  | _ => pure ()

def stagedFor (a : AssignmentAuthorization) : StagedRecord where
  version := a.targetVersion
  commit := a.targetCommit
  manifestSHA := a.manifestSHA256
  sequence := a.releaseSequence
  securityEpoch := a.securityEpoch
  artifactName := a.artifactName
  artifactSize := a.artifactSize
  artifactSHA := a.artifactSHA256
  serverVersion := a.serverVersion

def clearStaged : Action Unit := do
  removeLiveReady
  write .wrote fun h => { h with staging := { h.staging with staged := none } }
  write .wrote fun h => { h with staging := { h.staging with artifact := none } }
  write .wrote fun h => { h with staging := { h.staging with manifest := none } }

/-- The worker's candidate goes too only if its live command is this one. -/
def clearClaimedCandidate (expected : AuthorizationRecord) : Action Unit := do
  let h ← get
  match h.staging.ready with
  | some (some live) =>
    if sameAssignmentAuthorizationRecord live.authorization expected then
      if h.staging.staged = some (some (stagedFor expected.authorization)) then do
        clearStaged
        removeActivationClaim
      else removeActivationClaim
    else removeActivationClaim
  | _ => removeActivationClaim

/-- `clearStagedIfMatchingAuthorization` for the claimed command. The worker's lock is
absent or busy when the answer is no. -/
def clearClaimIfMatchingAuthorization (expected : AuthorizationRecord) : Action Unit := do
  let free ← choose .asked
  let h ← get
  if free then
    match h.activationClaim with
    | some (some ready) =>
      if sameAssignmentAuthorizationRecord ready.authorization expected then clearClaimedCandidate expected
      else pure ()
    | _ => pure ()
  else removeOldClaim expected

/-- `clearStagedIfMatchingAuthorization` for the live command of the worker. -/
def clearLiveIfMatchingAuthorization (expected : AuthorizationRecord) : Action Unit := do
  let free ← choose .asked
  let h ← get
  if free then
    if h.staging.staged = some (some (stagedFor expected.authorization)) then clearStaged else removeLiveReady
  else pure ()

def retainSlotTarget (target : String) : Option (List String) := do
  guard (validSlotTarget t target)
  pure [target]

def retainSlotMetadata (slot : SlotMetadata) : Option (List String) := do
  guard (validateSlotMetadata t slot)
  retainSlotTarget t slot.target

def retainOptionalSlotMetadata : Option SlotMetadata → Option (List String)
  | none => some []
  | some slot => retainSlotMetadata t slot

def retainOptionalActivationJournal : Option ActivationJournal → Option (List String)
  | none => some []
  | some journal => do
    let previous ← retainSlotTarget t journal.previousTarget
    let candidate ← retainSlotTarget t journal.candidateTarget
    let slot ← retainSlotMetadata t journal.previousSlot
    pure (previous ++ candidate ++ slot)

def validateRollbackJournal (journal : RollbackJournal) : Bool :=
  hexDigestPattern journal.authorizationSHA && validateSlotMetadata t journal.fromSlot &&
    validateSlotMetadata t journal.toSlot && !(journal.phase = .completed && journal.receipt = none)

def retainOptionalRollbackJournal : Option RollbackJournal → Option (List String)
  | none => some []
  | some journal => do
    guard (validateRollbackJournal t journal)
    let source ← retainSlotMetadata t journal.fromSlot
    let result ← retainSlotMetadata t journal.toSlot
    pure (source ++ result)

def retainOptionalCompletedActivation : Option CompletedActivation → Option (List String)
  | none => some []
  | some state => do
    let previous ← retainSlotMetadata t state.previousSlot
    let activated ← retainSlotMetadata t state.activatedSlot
    pure (previous ++ activated)

/-- The slot name of a bootstrap executable: the start of its digest. -/
def bootstrapSlotName (digest : String) : String := "bootstrap-" ++ String.ofList (digest.toList.take 16)

def receiptSlotName (receipt : RootActionReceipt) : Option String :=
  match receipt.resultKind with
  | .release => some receipt.resultVersion
  | .bootstrap =>
    if hexDigestPattern receipt.resultArtifactSHA256 then
      some (bootstrapSlotName receipt.resultArtifactSHA256)
    else none

def retainReceiptResult (receipt : RootActionReceipt) : List String :=
  ((receiptSlotName receipt).bind (retainSlotTarget t)).getD []

/-- Receipts in the worker's directory pin a slot only when the activator signed them. -/
def retainOptionalStagingReceipt : Option (Option SignedReceipt) → List String
  | some (some record) =>
    if verifyRootActionReceiptForWorker t record record.value.action then retainReceiptResult t record.value else []
  | _ => []

def retainOptionalRollbackResult : Option (Option RollbackRecord) → List String
  | some (some result) =>
    if verifyRootActionReceiptForWorker t result.receipt .rollback then retainReceiptResult t result.receipt.value
    else []
  | _ => []

def retainedSlotNames (h : Host) : Option (List String) := do
  let target ← currentTarget t h.toRoot
  let current ← retainSlotTarget t target
  let previous ← retainOptionalSlotMetadata t h.previous
  let activation ← retainOptionalActivationJournal t h.journal
  let rollback ← retainOptionalRollbackJournal t h.rollbackJournal
  let completed ← retainOptionalCompletedActivation t h.lastActivation
  pure (current ++ previous ++ activation ++ rollback ++ completed ++
    retainOptionalStagingReceipt t h.staging.receipt ++ retainOptionalRollbackResult t h.staging.rollbackResult)

def emptiedSlots (slots : Table String Slot) (name : String) : Table String Slot :=
  match slots.lookup name with
  | none => slots
  | some slot => slots.insert name { slot with executable := none }

/-- The executable goes first; a crash leaves an empty slot directory. -/
def securelyRemoveSlot (name : String) : Action Unit := do
  let h ← get
  let slot ← require (h.slots.lookup name)
  check slot.owned
  if slot.executable.isSome then do
    write .wrote fun h => { h with slots := emptiedSlots h.slots name }
    write .wrote fun h => { h with slots := h.slots.erase name }
  else write .wrote fun h => { h with slots := h.slots.erase name }

def removeObsoleteSlots (retained : List String) : List String → Action Unit
  | [] => pure ()
  | name :: names =>
    if validSlotTarget t name && !retained.contains name then do
      securelyRemoveSlot name
      removeObsoleteSlots retained names
    else removeObsoleteSlots retained names

def pruneObsoleteSlots : Action Unit := do
  let h ← get
  let retained ← require (retainedSlotNames t h)
  removeObsoleteSlots t retained h.slots.keys

end Actions

end P2pstream.Kernel.Updater
