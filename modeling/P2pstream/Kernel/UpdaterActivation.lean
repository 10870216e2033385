import P2pstream.Kernel.UpdaterActions

/-! Activation of a staged release by the root activator, and recovery of an
interrupted activation from its journal.
-/
namespace P2pstream.Kernel.Updater
open Library.Encoding hiding Bytes
open Library.Durable
open Kernel.AgentUpdates (AssignmentAuthorization Bytes RootActionReceipt SignedReceipt millisecond)

variable (t : Trust)

/-- `rollback` of activate.go: restore the slot the journal recorded. -/
def restorePrevious (journal : ActivationJournal) : Action Unit := do
  switchCurrent t journal.authorization.authorization.commandSequence false journal.previousTarget
  let healthy ← restartAndCheck
  check healthy
  write .wrote fun h => { h with metadata := some journal.previousSlot }
  removeJournal .wrote

def activatedRelease (journal : ActivationJournal) (receipt : RootActionReceipt) : VerifiedRelease where
  version := journal.version
  commit := receipt.resultCommit
  manifestSHA256 := receipt.resultManifestSHA256
  sequence := journal.sequence
  securityEpoch := journal.securityEpoch
  minimumSafeVersion := ""
  artifact := {
    name := receipt.resultArtifactName
    size := receipt.resultArtifactSize
    sha256 := receipt.resultArtifactSHA256 }

def activatedSlot (journal : ActivationJournal) (receipt : RootActionReceipt) : SlotMetadata :=
  { releaseSlotMetadata t (activatedRelease journal receipt) with target := journal.candidateTarget }

def completedActivation (journal : ActivationJournal) (receipt : SignedReceipt) : CompletedActivation where
  authorization := journal.authorization
  receipt
  previousSlot := journal.previousSlot
  activatedSlot := activatedSlot t journal receipt.value

def activatedFloor (journal : ActivationJournal) (receipt : RootActionReceipt) : Floor where
  sequence := journal.sequence
  securityEpoch := journal.securityEpoch
  minimumSafeVersion := journal.minimumSafeVersion
  version := journal.version
  manifestSHA256 := receipt.resultManifestSHA256

/-- The counter before the receipt, whether or not the receipt was counted already. -/
def counterBefore (counter : Int) (receipt : RootActionReceipt) : Int :=
  if counter = receipt.rootActionCounter then counter - 1 else counter

/-- A journal that cannot be parsed never occurs: only the activator writes it. The
hexadecimal digest in the receipt has been validated with it. -/
def persistHealthyActivation (journal : ActivationJournal) : Action Unit := do
  let receipt ← require journal.receipt
  let h ← get
  let previousCounter := counterBefore (loadRootActionCounter h.toRoot) receipt.value
  check (receipt.value.rootActionCounter ≠ 0 && receipt.value.rootActionCounter = previousCounter + 1)
  let verified ← readClock
  check (verifyRootActionReceiptRecord t receipt journal.authorization previousCounter verified)
  write .wrote fun h => { h with lastActivation := some (completedActivation t journal receipt) }
  write .wrote fun h => { h with staging := { h.staging with receipt := some (some receipt) } }
  write (.counted journal.authorization.authorization.commandSequence receipt.value.rootActionCounter) fun h =>
    { h with counter := some receipt.value.rootActionCounter }
  write (.persistedFloor (activatedFloor journal receipt.value)) fun h =>
    { h with floor := some (activatedFloor journal receipt.value) }
  write .wrote fun h => { h with previous := some journal.previousSlot }
  write .wrote fun h => { h with metadata := some (activatedSlot t journal receipt.value) }
  clearClaimIfMatchingAuthorization journal.authorization
  removeJournal .wrote
  pruneObsoleteSlots t

def recoverActivation : Action Unit := do
  let h ← get
  match h.journal with
  | none => pure ()
  | some journal => do
    check (validSlotTarget t journal.previousTarget && validSlotTarget t journal.candidateTarget &&
      validRelease t journal.version)
    match journal.phase with
    | .healthy => persistHealthyActivation t journal
    | .prepared | .switched => restorePrevious t journal

def readyMatchesAuthorization (ready : Ready) : Bool :=
  let a := ready.authorization.authorization
  ready.agentPublicID = a.agentPublicID && ready.assignmentID = a.assignmentID && ready.generation = a.generation &&
    ready.nonce = a.nonce

def readyMatchesTarget (ready : Ready) : Bool :=
  let a := ready.authorization.authorization
  ready.serverVersion = a.serverVersion && ready.version = a.targetVersion && ready.commit = a.targetCommit &&
    ready.manifestSHA = a.manifestSHA256 && ready.sequence = a.releaseSequence &&
    ready.securityEpoch = a.securityEpoch && ready.artifactName = a.artifactName &&
    ready.artifactSize = a.artifactSize && ready.artifactSHA = a.artifactSHA256

/-- Publish the receipt of the completed activation again; nothing is executed. -/
def replayCompletedActivation (ready : Ready) (floor : CommandFloor) : Action Unit := do
  let a := ready.authorization.authorization
  let digest ← require (authorizationDigest t a)
  check (floor.authorizationSHA256 = digest)
  let h ← get
  let activation ← require h.lastActivation
  check (sameAssignmentAuthorizationRecord activation.authorization ready.authorization &&
    readyMatchesAuthorization ready && readyMatchesTarget ready)
  let counter := loadRootActionCounter h.toRoot
  check (counter ≠ 0 && activation.receipt.value.rootActionCounter = counter &&
    activation.receipt.value.action = .activate)
  check (verifyAssignmentAuthorizationRecord t ready.authorization .activate (a.issuedAtUnixMillis * millisecond) 0)
  let now ← readClock
  check (verifyRootActionReceiptRecord t activation.receipt ready.authorization (counter - 1) now)
  let current ← require (currentTarget t h.toRoot)
  let slot ← require (loadCurrentSlotMetadata t h.toRoot current)
  check (slot = activation.activatedSlot && receiptResultMatchesSlot activation.receipt.value slot)
  write .wrote fun h => { h with staging := { h.staging with receipt := some (some activation.receipt) } }
  clearClaimIfMatchingAuthorization ready.authorization

def readyMatchesRelease (ready : Ready) (release : VerifiedRelease) : Bool :=
  ready.version = release.version && ready.commit = release.commit && ready.manifestSHA = release.manifestSHA256 &&
    ready.sequence = release.sequence && ready.securityEpoch = release.securityEpoch &&
    ready.artifactName = release.artifact.name && ready.artifactSize = release.artifact.size &&
    ready.artifactSHA = release.artifact.sha256

def authorizationMatchesRelease (a : AssignmentAuthorization) (release : VerifiedRelease) (serverVersion : String) :
    Bool :=
  a.serverVersion = serverVersion && a.manifestSHA256 = release.manifestSHA256 && a.targetVersion = release.version &&
    a.targetCommit = release.commit && a.releaseSequence = release.sequence &&
    a.securityEpoch = release.securityEpoch && a.os = operatingSystem && a.arch = t.architecture.name &&
    a.artifactName = release.artifact.name && a.artifactSize = release.artifact.size &&
    a.artifactSHA256 = release.artifact.sha256

/-- The recovery slot of the last activation, when it activated the current slot and
was the last root action. -/
def reactivationSlot (h : Root) (current : SlotMetadata) (now : Int) : Option SlotMetadata := do
  let activation ← h.lastActivation
  let counter := loadRootActionCounter h
  guard (counter ≠ 0 ∧ activation.receipt.value.rootActionCounter = counter ∧ activation.activatedSlot = current ∧
    activation.receipt.value.action = .activate ∧ receiptResultMatchesSlot activation.receipt.value current ∧
    activation.previousSlot.target ≠ current.target)
  guard (verifyRootActionReceiptRecord t activation.receipt activation.authorization (counter - 1) now)
  guard (validateSlotMetadata t activation.previousSlot)
  pure activation.previousSlot

/-- The slot to come back to. Reinstalling the active target keeps its distinct recovery slot. -/
def recordedPreviousSlot (candidate : String) : Action SlotMetadata := do
  let h ← get
  let current ← require (currentTarget t h.toRoot)
  let slot ← require (loadCurrentSlotMetadata t h.toRoot current)
  if current = candidate then do
    let now ← readClock
    require (reactivationSlot t h.toRoot slot now)
  else pure slot

def activationJournal (ready : Ready) (release : VerifiedRelease) (previousSlot : SlotMetadata) (digest : String) :
    ActivationJournal where
  phase := .prepared
  previousTarget := previousSlot.target
  candidateTarget := release.version
  version := release.version
  sequence := release.sequence
  securityEpoch := release.securityEpoch
  minimumSafeVersion := release.minimumSafeVersion
  authorization := ready.authorization
  authorizationSHA := digest
  previousSlot
  receipt := none

def completeActivation (journal : ActivationJournal) (release : VerifiedRelease) : Action Unit := do
  let receipt ← createRootActionReceipt t journal.authorization journal.authorizationSHA (releaseSlotMetadata t release)
  let healthy := { journal with phase := .healthy, receipt := some receipt }
  writeJournal t healthy
  persistHealthyActivation t healthy

def checkCandidate (journal : ActivationJournal) (release : VerifiedRelease) : Action Unit := do
  let healthy ← restartAndCheck
  if healthy then completeActivation t journal release
  else do
    restorePrevious t journal
    fail

def switchToCandidate (journal : ActivationJournal) (release : VerifiedRelease) (artifact : Bytes) : Action Unit := do
  installSlot t release artifact
  switchCurrent t journal.authorization.authorization.commandSequence true journal.candidateTarget
  let switched := { journal with phase := .switched }
  let written ← attempt (writeJournal t switched)
  match written with
  | some _ => checkCandidate t switched release
  | none => do
    let _ ← attempt (switchCurrent t journal.authorization.authorization.commandSequence false journal.previousTarget)
    fail

/-- From the verified command on: every step from here is recovered from the journal. -/
def executeActivation (journal : ActivationJournal) (release : VerifiedRelease) (artifact : Bytes) : Action Unit := do
  writeJournal t journal
  let now ← readClock
  let consumed ← attempt (consumeAssignmentAuthorization t journal.authorization .activate now)
  match consumed with
  | some digest => do
    check (digest = journal.authorizationSHA)
    switchToCandidate t journal release artifact
  | none => do
    let _ ← attempt (removeJournal (.refused journal.authorization.authorization.commandSequence))
    fail

def activateReady (ready : Ready) (floor : Floor) (started : Int) : Action Unit := do
  let h ← get
  let a := ready.authorization.authorization
  let manifest ← require h.staging.manifest
  let release ← require (verifyRelease t manifest floor ready.serverVersion started)
  check (validateRelease t release)
  check (readyMatchesRelease ready release)
  check (readyMatchesAuthorization ready)
  check (authorizationMatchesRelease t a release ready.serverVersion)
  let now ← readClock
  check (verifyAssignmentAuthorizationRecord t ready.authorization .activate now 0)
  let space ← choose .asked
  check space
  let artifact ← require h.staging.artifact
  check (verifyArtifact t artifact release.artifact)
  let previousSlot ← recordedPreviousSlot t release.version
  let digest ← require (authorizationDigest t a)
  executeActivation t (activationJournal ready release previousSlot digest) release artifact

/-- `Activate` on the claimed command. -/
def activate : Action Unit := do
  let started ← readClock
  recoverActivation t
  let h ← get
  let floor ← require (loadFloor t h.toRoot)
  match h.activationClaim with
  | none => pure ()
  | some file => do
    let ready ← require file
    check (validRelease t ready.serverVersion)
    let commandFloor ← require (loadRootCommandFloor h.toRoot)
    if commandFloor.sequence < ready.authorization.authorization.commandSequence then
      activateReady t ready floor started
    else do
      check (ready.authorization.authorization.commandSequence = commandFloor.sequence)
      replayCompletedActivation t ready commandFloor

end P2pstream.Kernel.Updater
