import P2pstream.Kernel.UpdaterActivation

/-! Signed rollback: from the request through the three phases of its journal to the
receipt, and its recovery from any of them.
-/
namespace P2pstream.Kernel.Updater
open Library.Encoding hiding Bytes
open Library.Durable
open Kernel.AgentUpdates (AssignmentAuthorization millisecond)

variable (t : Trust)

def writeRollbackJournal (journal : RollbackJournal) : Action Unit := do
  check (validateRollbackJournal t journal)
  write .wrote fun h => { h with rollbackJournal := some journal }

def removeRollbackJournal : Action Unit := write .wrote fun h => { h with rollbackJournal := none }

/-- A consumed command is verified as of its issue, an unconsumed one as of now. -/
def ensureAuthorizationConsumed (authorization : AuthorizationRecord) (expectedSHA : String) : Action Unit := do
  let h ← get
  let floor ← require (loadRootCommandFloor h.toRoot)
  let a := authorization.authorization
  if floor.sequence = a.commandSequence then
    check (floor.authorizationSHA256 = expectedSHA &&
      verifyAssignmentAuthorizationRecord t authorization .rollback (a.issuedAtUnixMillis * millisecond) 0)
  else do
    check (floor.sequence < a.commandSequence)
    let now ← readClock
    let actual ← consumeAssignmentAuthorization t authorization .rollback now
    check (actual = expectedSHA)

def removeRollbackClaim : Action Unit := write .wrote fun h => { h with rollbackClaim := none }

def removeMatchingRollbackRequest (expected : AuthorizationRecord) : Action Unit := do
  let h ← get
  match h.rollbackClaim with
  | some (some request) =>
    if sameAssignmentAuthorizationRecord request expected then removeRollbackClaim else pure ()
  | _ => pure ()

def superseded (old current : AssignmentAuthorization) : Bool :=
  old.agentPublicID = current.agentPublicID && old.commandSequence < current.commandSequence

def clearSupersededClaim (authorization : AuthorizationRecord) : Action Unit := do
  let h ← get
  match h.activationClaim with
  | some (some ready) =>
    if superseded ready.authorization.authorization authorization.authorization then removeActivationClaim
    else pure ()
  | _ => pure ()

def clearSupersededLive (authorization : AuthorizationRecord) : Action Unit := do
  let h ← get
  match h.staging.ready with
  | some (some ready) =>
    if superseded ready.authorization.authorization authorization.authorization then
      clearLiveIfMatchingAuthorization ready.authorization
    else pure ()
  | _ => pure ()

def clearSupersededActivationForRollback (authorization : AuthorizationRecord) : Action Unit := do
  clearSupersededClaim authorization
  clearSupersededLive authorization

def persistRollbackResult (result : RollbackRecord) (current : SlotMetadata) (previousCounter : Int) :
    Action Unit := do
  check (result.receipt.value.rootActionCounter = previousCounter + 1 && result.receipt.value.rootActionCounter ≠ 0)
  let now ← readClock
  check (verifyRootActionReceiptRecord t result.receipt result.authorization previousCounter now)
  write (.counted result.authorization.authorization.commandSequence result.receipt.value.rootActionCounter) fun h =>
    { h with counter := some result.receipt.value.rootActionCounter }
  write .wrote fun h => { h with metadata := some current }
  write .wrote fun h => { h with lastRollback := some result }
  write .wrote fun h => { h with staging := { h.staging with rollbackResult := some (some result) } }

def finishRollback (journal : RollbackJournal) : Action Unit := do
  let receipt ← require journal.receipt
  let h ← get
  persistRollbackResult t { authorization := journal.authorization, receipt } journal.toSlot
    (counterBefore (loadRootActionCounter h.toRoot) receipt.value)
  clearSupersededActivationForRollback journal.authorization
  removeMatchingRollbackRequest journal.authorization
  removeRollbackJournal
  pruneObsoleteSlots t

/-- The result slot is not healthy: go back, and keep the journal if that fails too. -/
def restoreFromSlot (journal : RollbackJournal) : Action Unit := do
  switchCurrent t journal.authorization.authorization.commandSequence false journal.fromSlot.target
  let recovered ← restartAndCheck
  check recovered
  removeRollbackJournal
  fail

def completeRollback (journal : RollbackJournal) : Action Unit := do
  let receipt ← createRootActionReceipt t journal.authorization journal.authorizationSHA journal.toSlot
  let completed := { journal with phase := .completed, receipt := some receipt }
  writeRollbackJournal t completed
  finishRollback t completed

/-- Make the result slot current unless it is; only the two slots of the journal are expected. -/
def ensureToSlot (journal : RollbackJournal) : Action Unit := do
  let h ← get
  let current ← require (currentTarget t h.toRoot)
  check (current = journal.fromSlot.target || current = journal.toSlot.target)
  if current = journal.toSlot.target then pure ()
  else switchCurrent t journal.authorization.authorization.commandSequence true journal.toSlot.target

def checkRollback (journal : RollbackJournal) : Action Unit := do
  ensureToSlot t journal
  let healthy ← restartAndCheck
  if healthy then completeRollback t journal else restoreFromSlot t journal

def switchRollback (journal : RollbackJournal) : Action Unit := do
  ensureToSlot t journal
  let switched := { journal with phase := .switched }
  writeRollbackJournal t switched
  checkRollback t switched

def continueRollback (journal : RollbackJournal) : Action Unit := do
  ensureAuthorizationConsumed t journal.authorization journal.authorizationSHA
  match journal.phase with
  | .prepared => switchRollback t journal
  | .switched => checkRollback t journal
  | .completed => finishRollback t journal

def recoverRollback (journal : RollbackJournal) : Action Unit := do
  check (validateRollbackJournal t journal)
  continueRollback t journal

def authorizationMatchesSlotExactly (a : AssignmentAuthorization) (slot : SlotMetadata) : Bool :=
  a.manifestSHA256 = slot.manifestSHA256 && a.targetVersion = slot.version && a.targetCommit = slot.commit &&
    a.releaseSequence = slot.releaseSequence && a.securityEpoch = slot.securityEpoch && a.os = slot.os &&
    a.arch = slot.arch && a.artifactName = slot.artifactName && a.artifactSize = slot.artifactSize &&
    a.artifactSHA256 = slot.artifactSHA256

/-- The previous slot, if the last root action activated the current one. -/
def previousSlotForRollback (h : Root) (currentSlot : SlotMetadata) (now : Int) : Option SlotMetadata := do
  let counter := loadRootActionCounter h
  guard (counter ≠ 0)
  let activation ← h.lastActivation
  guard (verifyRootActionReceiptRecord t activation.receipt activation.authorization (counter - 1) now)
  guard (activation.receipt.value.action = .activate ∧ activation.receipt.value.rootActionCounter = counter ∧
    activation.activatedSlot = currentSlot)
  let previous ← h.previous
  guard (validateSlotMetadata t previous)
  pure previous

/-- A rollback of a release that is not current keeps the current slot. -/
def rollbackResultSlot (a : AssignmentAuthorization) (currentSlot : SlotMetadata) : Action SlotMetadata := do
  if authorizationMatchesSlotExactly a currentSlot then do
    let h ← get
    let now ← readClock
    require (previousSlotForRollback t h.toRoot currentSlot now)
  else pure currentSlot

def slotAvailable (h : Root) (target : String) : Bool :=
  match h.slots.lookup target with
  | none => false
  | some slot => slot.executable.isSome

def replayCompletedRollback (authorization : AuthorizationRecord) (floor : CommandFloor) : Action Unit := do
  let a := authorization.authorization
  let digest ← require (authorizationDigest t a)
  check (floor.authorizationSHA256 = digest)
  let h ← get
  let result ← require h.lastRollback
  check (sameAssignmentAuthorizationRecord result.authorization authorization)
  check (verifyAssignmentAuthorizationRecord t authorization .rollback (a.issuedAtUnixMillis * millisecond) 0)
  let counter := loadRootActionCounter h.toRoot
  check (counter ≠ 0 && result.receipt.value.rootActionCounter = counter)
  let now ← readClock
  check (verifyRootActionReceiptRecord t result.receipt authorization (counter - 1) now)
  let current ← require (currentTarget t h.toRoot)
  let slot ← require (loadCurrentSlotMetadata t h.toRoot current)
  check (receiptResultMatchesSlot result.receipt.value slot)
  write .wrote fun h => { h with lastRollback := some result }
  write .wrote fun h => { h with staging := { h.staging with rollbackResult := some (some result) } }
  clearSupersededActivationForRollback authorization
  removeMatchingRollbackRequest authorization

def rollbackJournal (request : AuthorizationRecord) (digest : String) (fromSlot toSlot : SlotMetadata) :
    RollbackJournal where
  phase := .prepared
  authorization := request
  authorizationSHA := digest
  fromSlot
  toSlot
  receipt := none

def startRollback (request : AuthorizationRecord) : Action Unit := do
  let now ← readClock
  check (verifyAssignmentAuthorizationRecord t request .rollback now 0)
  let h ← get
  let current ← require (currentTarget t h.toRoot)
  let currentSlot ← require (loadCurrentSlotMetadata t h.toRoot current)
  let previous ← rollbackResultSlot t request.authorization currentSlot
  check (slotAvailable h.toRoot previous.target)
  let digest ← require (authorizationDigest t request.authorization)
  let journal := rollbackJournal request digest currentSlot previous
  writeRollbackJournal t journal
  continueRollback t journal

/-- `rollbackFromPath` on the claimed request. -/
def rollbackFromPath : Action Unit := do
  let h ← get
  match h.rollbackJournal with
  | some journal => recoverRollback t journal
  | none => do
    let file ← require h.rollbackClaim
    let request ← require file
    let commandFloor ← require (loadRootCommandFloor h.toRoot)
    if commandFloor.sequence < request.authorization.commandSequence then startRollback t request
    else do
      check (request.authorization.commandSequence = commandFloor.sequence)
      replayCompletedRollback t request commandFloor

end P2pstream.Kernel.Updater
