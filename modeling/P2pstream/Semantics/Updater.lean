import P2pstream.Kernel.UpdaterSystem

/-! What the activator may do to a host, one durable step at a time. The judgments say
what is known of the host when a step is taken; they do not mention the programs.
-/
namespace P2pstream.Semantics.Updater
open Library Kernel.SignedPayloads Kernel.Updater
open Kernel.AgentUpdates (AssignmentAction AssignmentAuthorization SignedReceipt maxInt64
  maxSigningClockSkew millisecond unixMilli)

variable (t : Trust)

def Signed (action : AssignmentAction) (record : AuthorizationRecord) : Prop :=
  verifyAssignmentAuthorizationRecord t record action (record.authorization.issuedAtUnixMillis * millisecond) 0 = true

def Unconsumed (r : Root) (sequence : Int) : Prop :=
  ∃ floor, loadRootCommandFloor r = some floor ∧ floor.sequence < sequence

def Consumed (r : Root) (sequence : Int) (digest : String) : Prop :=
  ∃ floor, loadRootCommandFloor r = some floor ∧ floor.sequence = sequence ∧ floor.authorizationSHA256 = digest

structure Attestable (slot : SlotMetadata) : Prop where
  valid : validateSlotMetadata t slot = true
  artifact : validateArtifact slot.os slot.arch slot.artifactName slot.artifactSize slot.artifactSHA256 = true
  sequence : 0 ≤ slot.releaseSequence ∧ slot.releaseSequence ≤ maxInt64
  epoch : 0 ≤ slot.securityEpoch ∧ slot.securityEpoch ≤ maxInt64

def journalFloor (journal : ActivationJournal) : Floor where
  sequence := journal.sequence
  securityEpoch := journal.securityEpoch
  minimumSafeVersion := journal.minimumSafeVersion
  version := journal.version
  manifestSHA256 := journal.authorization.authorization.manifestSHA256

def VersionLE (low high : String) : Prop := low = high ∨ low = "" ∨ (high ≠ "" ∧ 0 ≤ t.semverCompare high low)

structure FloorLE (low high : Floor) : Prop where
  sequence : low.sequence ≤ high.sequence
  securityEpoch : low.securityEpoch ≤ high.securityEpoch
  minimumSafeVersion : VersionLE t low.minimumSafeVersion high.minimumSafeVersion
  version : VersionLE t low.version high.version

/-- What an activation journal says of its command, whatever its phase. -/
structure Written (journal : ActivationJournal) : Prop where
  candidate : journal.candidateTarget = journal.version
  valid : validRelease t journal.version = true
  target : journal.previousTarget = journal.previousSlot.target
  previous : validateSlotMetadata t journal.previousSlot = true
  distinct : journal.previousTarget ≠ journal.candidateTarget
  signed : Signed t .activate journal.authorization
  digest : authorizationDigest t journal.authorization.authorization = some journal.authorizationSHA
  version : journal.authorization.authorization.targetVersion = journal.version
  sequence : journal.authorization.authorization.releaseSequence = journal.sequence
  securityEpoch : journal.authorization.authorization.securityEpoch = journal.securityEpoch
  minimum : stable t journal.minimumSafeVersion = true

/-- The slot an activation starts from: the current one, or the recovery slot of the
last activation when that made the candidate current. -/
inductive Recorded (r : Root) (journal : ActivationJournal) : Prop where
  | current (current : r.current = some journal.previousTarget) (metadata : r.metadata = some journal.previousSlot)
  | reactivation (current : r.current = some journal.candidateTarget) (described)
      (metadata : r.metadata = some described) (target : described.target = journal.candidateTarget) (done)
      (last : r.lastActivation = some done) (slot : done.previousSlot = journal.previousSlot)

/-- A receipt issued for the journalled command over the present counter. -/
structure Issued (now : Int) (r : Root) (authorization : AuthorizationRecord) (receipt : SignedReceipt) : Prop where
  next : receipt.value.rootActionCounter = loadRootActionCounter r + 1
  verified : verifyRootActionReceiptRecord t receipt authorization (loadRootActionCounter r) now = true

def Fits (r : Root) (receipt : SignedReceipt) : Prop :=
  receipt.value.rootActionCounter = counterBefore (loadRootActionCounter r) receipt.value + 1

structure Requested (journal : RollbackJournal) : Prop where
  valid : validateRollbackJournal t journal = true
  signed : Signed t .rollback journal.authorization
  digest : authorizationDigest t journal.authorization.authorization = some journal.authorizationSHA

/-- The slot a rollback leads to: the recorded previous one if the command is about the
current release, else the current one. -/
def Leading (r : Root) (a : AssignmentAuthorization) (fromSlot toSlot : SlotMetadata) : Prop :=
  if authorizationMatchesSlotExactly a fromSlot then r.previous = some toSlot else toSlot = fromSlot

/-- The activation has passed its check, and its receipt is in the journal. -/
structure Healthy (r : Root) (journal : ActivationJournal) (receipt : SignedReceipt) : Prop where
  found : r.journal = some journal
  phase : journal.phase = .healthy
  attested : journal.receipt = some receipt

structure Completed (r : Root) (journal : RollbackJournal) (receipt : SignedReceipt) : Prop where
  found : r.rollbackJournal = some journal
  phase : journal.phase = .completed
  attested : journal.receipt = some receipt

inductive Named (r : Root) : String → Prop where
  | current {target} (found : r.current = some target) : Named r target
  | previous {slot} (found : r.previous = some slot) : Named r slot.target
  | journalPrevious {journal} (found : r.journal = some journal) : Named r journal.previousTarget
  | journalCandidate {journal} (found : r.journal = some journal) : Named r journal.candidateTarget
  | rollbackFrom {journal} (found : r.rollbackJournal = some journal) : Named r journal.fromSlot.target
  | rollbackTo {journal} (found : r.rollbackJournal = some journal) : Named r journal.toSlot.target
  | activationPrevious {done} (found : r.lastActivation = some done) : Named r done.previousSlot.target
  | activated {done} (found : r.lastActivation = some done) : Named r done.activatedSlot.target

def forward : HostEvent → Bool
  | .switched _ true _ => true
  | _ => false

/-- What a run is about: the commands it may take up, the activations that may still move the host
or be given up, whether one has moved it, whether it is a bootstrap, the versions a bootstrap may
pin, and whether new commands are claimed. -/
structure Scope where
  activation : AuthorizationRecord → Prop
  rollback : AuthorizationRecord → Prop
  unmoved : Int → Prop
  moved : Prop
  bootstrap : Prop
  pins : (r : Root) → (version : String) → (advance : Bool) → Prop
  claims : Prop

def everything : Scope where
  activation := fun _ => True
  rollback := fun _ => True
  unmoved := fun _ => True
  moved := True
  bootstrap := True
  pins := fun _ _ _ => True
  claims := True

def Scope.still (scope : Scope) : Scope := { scope with unmoved := fun _ => False, moved := False }

/-- What is left once the activation switched, or was given up. -/
def Scope.since (scope : Scope) (turn : HostEvent) : Scope := { scope with unmoved := fun _ => False, moved := forward turn }

variable (scope : Scope)

/-- One durable step of root's own state at a time `now`. -/
inductive RootStep (now : Int) (r : Root) : HostEvent → Root → Prop where
  | prepare (journal floor) (idle : r.journal = none) (quiet : r.rollbackJournal = none)
      (phase : journal.phase = .prepared) (unattested : journal.receipt = none) (written : Written t journal)
      (admitted : scope.activation journal.authorization) (recorded : Recorded r journal)
      (unconsumed : Unconsumed r journal.command) (loaded : loadFloor t r = some floor)
      (advances : FloorLE t floor (journalFloor journal)) : RootStep now r .wrote { r with journal := some journal }
  | consume (journal) (found : r.journal = some journal) (phase : journal.phase = .prepared)
      (unconsumed : Unconsumed r journal.command) : RootStep now r (.consumed journal.command) { r with
        commandFloor := some ⟨journal.command,journal.authorizationSHA⟩ }
  | install (name slot) (absent : r.slots.lookup name = none) (whole : slot.executable.isSome) :
      RootStep now r .wrote { r with slots := r.slots.insert name slot }
  | switch (journal) (found : r.journal = some journal) (phase : journal.phase = .prepared)
      (consumed : Consumed r journal.command journal.authorizationSHA)
      (available : slotAvailable r journal.candidateTarget = true) (unmoved : scope.unmoved journal.command) :
      RootStep now r (.switched journal.command true journal.candidateTarget)
        { r with current := some journal.candidateTarget }
  | markSwitched (journal) (found : r.journal = some journal) (phase : journal.phase = .prepared)
      (consumed : Consumed r journal.command journal.authorizationSHA)
      (current : r.current = some journal.candidateTarget) (moved : scope.moved) :
      RootStep now r .wrote { r with journal := some { journal with phase := .switched } }
  | restore (journal) (found : r.journal = some journal) (phase : journal.phase ≠ .healthy) :
      RootStep now r (.switched journal.command false journal.previousTarget)
        { r with current := some journal.previousTarget }
  | restoreMetadata (journal) (found : r.journal = some journal) (phase : journal.phase ≠ .healthy)
      (current : r.current = some journal.previousTarget) :
      RootStep now r .wrote { r with metadata := some journal.previousSlot }
  | forget (journal) (found : r.journal = some journal) (phase : journal.phase ≠ .healthy)
      (current : r.current = some journal.previousTarget) (metadata : r.metadata = some journal.previousSlot) :
      RootStep now r .wrote { r with journal := none }
  | abandon (journal) (found : r.journal = some journal) (phase : journal.phase = .prepared)
      (recorded : Recorded r journal) (unmoved : scope.unmoved journal.command) :
      RootStep now r (.refused journal.command) { r with journal := none }
  | markHealthy (journal receipt) (found : r.journal = some journal) (phase : journal.phase = .switched)
      (current : r.current = some journal.candidateTarget) (issued : Issued t now r journal.authorization receipt)
      (kind : receipt.value.resultKind = .release)
      (manifest : receipt.value.resultManifestSHA256 = journal.authorization.authorization.manifestSHA256)
      (advances : ∃ floor, loadFloor t r = some floor ∧ FloorLE t floor (journalFloor journal)) :
      RootStep now r .wrote { r with journal := some { journal with phase := .healthy, receipt := some receipt } }
  | recordActivation {journal receipt} (healthy : Healthy r journal receipt) :
      RootStep now r .wrote { r with lastActivation := some (completedActivation t journal receipt) }
  | countActivation {journal receipt} (healthy : Healthy r journal receipt) (fits : Fits r receipt) :
      RootStep now r (.counted journal.command receipt.value.rootActionCounter)
        { r with counter := some receipt.value.rootActionCounter }
  | persistFloor {journal receipt} (healthy : Healthy r journal receipt) :
      RootStep now r (.persistedFloor (activatedFloor journal receipt.value))
        { r with floor := some (activatedFloor journal receipt.value) }
  | recordPrevious {journal receipt} (healthy : Healthy r journal receipt) :
      RootStep now r .wrote { r with previous := some journal.previousSlot }
  | recordMetadata {journal receipt} (healthy : Healthy r journal receipt) :
      RootStep now r .wrote { r with metadata := some (activatedSlot t journal receipt.value) }
  | complete {journal receipt} (healthy : Healthy r journal receipt)
      (activation : r.lastActivation = some (completedActivation t journal receipt))
      (counter : r.counter = some receipt.value.rootActionCounter)
      (floor : r.floor = some (activatedFloor journal receipt.value))
      (previous : r.previous = some journal.previousSlot)
      (metadata : r.metadata = some (activatedSlot t journal receipt.value)) :
      RootStep now r .wrote { r with journal := none }
  | prepareRollback (journal) (idle : r.journal = none) (quiet : r.rollbackJournal = none)
      (phase : journal.phase = .prepared) (unattested : journal.receipt = none) (requested : Requested t journal)
      (admitted : scope.rollback journal.authorization) (current : r.current = some journal.fromSlot.target)
      (metadata : r.metadata = some journal.fromSlot)
      (leading : Leading r journal.authorization.authorization journal.fromSlot journal.toSlot)
      (available : slotAvailable r journal.toSlot.target = true) (unconsumed : Unconsumed r journal.command)
      (issued : journal.authorization.authorization.issuedAtUnixMillis ≤ unixMilli (now + maxSigningClockSkew)) :
      RootStep now r .wrote { r with rollbackJournal := some journal }
  | consumeRollback (journal) (found : r.rollbackJournal = some journal) (unconsumed : Unconsumed r journal.command) :
      RootStep now r (.consumed journal.command) { r with
        commandFloor := some ⟨journal.command,journal.authorizationSHA⟩ }
  | switchRollback (journal) (found : r.rollbackJournal = some journal) (phase : journal.phase ≠ .completed)
      (consumed : Consumed r journal.command journal.authorizationSHA)
      (current : r.current = some journal.fromSlot.target)
      (distinct : journal.fromSlot.target ≠ journal.toSlot.target) :
      RootStep now r (.switched journal.command true journal.toSlot.target)
        { r with current := some journal.toSlot.target }
  | markRollbackSwitched (journal) (found : r.rollbackJournal = some journal) (phase : journal.phase = .prepared)
      (consumed : Consumed r journal.command journal.authorizationSHA)
      (current : r.current = some journal.toSlot.target) :
      RootStep now r .wrote { r with rollbackJournal := some { journal with phase := .switched } }
  | restoreRollback (journal) (found : r.rollbackJournal = some journal) (phase : journal.phase = .switched) :
      RootStep now r (.switched journal.command false journal.fromSlot.target)
        { r with current := some journal.fromSlot.target }
  | forgetRollback (journal) (found : r.rollbackJournal = some journal) (phase : journal.phase = .switched)
      (current : r.current = some journal.fromSlot.target) : RootStep now r .wrote { r with rollbackJournal := none }
  | markCompleted (journal receipt) (found : r.rollbackJournal = some journal) (phase : journal.phase = .switched)
      (current : r.current = some journal.toSlot.target) (issued : Issued t now r journal.authorization receipt) :
      RootStep now r .wrote
        { r with rollbackJournal := some { journal with phase := .completed, receipt := some receipt } }
  | countRollback {journal receipt} (completed : Completed r journal receipt) (fits : Fits r receipt) :
      RootStep now r (.counted journal.command receipt.value.rootActionCounter)
        { r with counter := some receipt.value.rootActionCounter }
  | recordResult {journal receipt} (completed : Completed r journal receipt) :
      RootStep now r .wrote { r with metadata := some journal.toSlot }
  | recordRollback {journal receipt} (completed : Completed r journal receipt) :
      RootStep now r .wrote { r with lastRollback := some ⟨journal.authorization,receipt⟩ }
  | completeRollback {journal receipt} (completed : Completed r journal receipt)
      (counter : r.counter = some receipt.value.rootActionCounter) (metadata : r.metadata = some journal.toSlot)
      (last : r.lastRollback = some ⟨journal.authorization,receipt⟩) :
      RootStep now r .wrote { r with rollbackJournal := none }
  | prune (name slots) (kept : ∀ target, Named r target → target ≠ name)
      (others : ∀ other, other ≠ name → slots.lookup other = r.slots.lookup other) :
      RootStep now r .wrote { r with slots := slots }
  | pinFloor (floor version advance) (loaded : loadFloor t r = some floor) (valid : validRelease t version = true)
      (admitted : scope.bootstrap) (pins : scope.pins r version advance) :
      RootStep now r (.persistedFloor (pinnedFloor t floor version advance))
        { r with floor := some (pinnedFloor t floor version advance) }
  | pinMetadata (slot) (absent : r.metadata = none) (current : r.current = some slot.target)
      (attestable : Attestable t slot) (admitted : scope.bootstrap) :
      RootStep now r .wrote { r with metadata := some slot }

inductive Quiet : HostEvent → Prop where
  | tick : Quiet .tick
  | asked (answer) : Quiet (.asked answer)
  | wrote : Quiet .wrote

structure Claims (h next : Host) : Prop where
  activation : next.activationClaim = h.activationClaim ∨ next.activationClaim = none ∨ scope.claims
  rollback : next.rollbackClaim = h.rollbackClaim ∨ next.rollbackClaim = none ∨ scope.claims

theorem Claims.same {scope : Scope} {h next : Host} (activation : next.activationClaim = h.activationClaim)
    (rollback : next.rollbackClaim = h.rollbackClaim) : Claims scope h next :=
  ⟨.inl activation,.inl rollback⟩

/-- A durable step of the host: time passes, the worker's files or a claim change, or
root's state makes a step. -/
inductive HostStep (h : Host) (event : HostEvent) (next : Host) : Prop where
  | quiet (later : h.now ≤ next.now) (same : next.toRoot = h.toRoot) (claims : Claims scope h next)
      (event : Quiet event)
  | root (now : next.now = h.now) (claims : Claims scope h next)
      (step : RootStep t scope h.now h.toRoot event next.toRoot)

theorem HostStep.own {t : Trust} {scope : Scope} {h : Host} {event : HostEvent} {r : Root}
    (step : RootStep t scope h.now h.toRoot event r) : HostStep t scope h event { h with toRoot := r } :=
  .root rfl (.same rfl rfl) step

end P2pstream.Semantics.Updater
