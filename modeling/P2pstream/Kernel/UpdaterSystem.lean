import P2pstream.Kernel.UpdaterRollback
import P2pstream.Library.Transitions

/-! The host as a machine. The worker may replace its directory by anything, the
activator and bootstrap run under one lock with an oracle each and may be cut off after
any durable step, and time passes.
-/
namespace P2pstream.Kernel.Updater
open Library.Encoding hiding Bytes
open Library Library.Durable Kernel.SignedPayloads
open Kernel.AgentUpdates (AssignmentAction)

variable (t : Trust)

def failureFor (h : Host) : AssignmentAction → FailureRecord
  | .activate =>
    match h.activationClaim with
    | some (some ready) => { code := "activation_failed", assignmentID := ready.assignmentID, generation := ready.generation }
    | _ => { code := "activation_failed", assignmentID := 0, generation := 0 }
  | .rollback =>
    let authorization := match h.rollbackClaim with
      | some request => request
      | none => h.rollbackJournal.map RollbackJournal.authorization
    match authorization with
    | some record => {
        code := "rollback_failed"
        assignmentID := record.authorization.assignmentID
        generation := record.authorization.generation }
    | none => { code := "rollback_failed", assignmentID := 0, generation := 0 }

def removeClaim : AssignmentAction → Action Unit
  | .activate => removeActivationClaim
  | .rollback => removeRollbackClaim

/-- `QuarantineActivationFailure`: report unless a journal is still to be recovered, and
drop the command. The root-local diagnostics are a write that changes nothing read here. -/
def quarantineActivationFailure (action : AssignmentAction) : Action Unit := do
  let h ← get
  let record := failureFor h action
  let recoverable := match action with
    | .activate => h.journal.isSome
    | .rollback => h.rollbackJournal.isSome
  write .wrote id
  if recoverable then removeClaim action
  else do
    write .wrote fun h => { h with staging := { h.staging with
      failure := if 0 < record.assignmentID ∧ 0 < record.generation then some record else none } }
    removeClaim action

def runClaimedRollback : Action Unit := do
  let outcome ← attempt (rollbackFromPath t)
  match outcome with
  | some _ => pure ()
  | none => do
    quarantineActivationFailure .rollback
    fail

def runClaimedActivation : Action Unit := do
  let outcome ← attempt (activate t)
  match outcome with
  | some _ => pure ()
  | none => do
    quarantineActivationFailure .activate
    fail

def claimRollback : Action Unit := do
  let h ← get
  if h.rollbackClaim.isSome || h.staging.rollback.isNone then pure ()
  else write .wrote fun h => { h with
    rollbackClaim := h.staging.rollback
    staging := { h.staging with rollback := none } }

def claimActivation : Action Unit := do
  let h ← get
  if h.activationClaim.isSome || h.staging.ready.isNone then pure ()
  else write .wrote fun h => { h with
    activationClaim := h.staging.ready
    staging := { h.staging with ready := none } }

def runClaimedCommand : Action Unit := do
  let h ← get
  if h.rollbackClaim.isSome then runClaimedRollback t
  else if h.activationClaim.isSome then runClaimedActivation t
  else pure ()

/-- Journals recover before any new command; a rollback goes before an activation. -/
def runActivator : Action Unit := do
  let h ← get
  if h.rollbackJournal.isSome then runClaimedRollback t
  else if h.journal.isSome then runClaimedActivation t
  else do
    claimRollback
    let claimed ← get
    if claimed.rollbackClaim.isSome then runClaimedRollback t
    else do
      claimActivation
      claimRollback
      runClaimedCommand t

structure BootstrapOptions where
  currentVersion : String
  buildCommit : String
  existingTunnel : Option (String × String)
  reenroll : Bool
  deriving DecidableEq

def bootstrapVersionFloor (options : BootstrapOptions) : String :=
  match options.existingTunnel with
  | some (version,_) => version
  | none => options.currentVersion

/-- The floor `pinBootstrapState` writes over a readable one. -/
def pinnedFloor (floor : Floor) (currentVersion : String) (advance : Bool) : Floor :=
  if advance && (floor.version = "" || 0 < t.semverCompare currentVersion floor.version) then
    { floor with version := currentVersion, manifestSHA256 := "" }
  else floor

def pinBootstrapState (currentVersion : String) (advance : Bool) : Action Unit := do
  let h ← get
  let floor ← require (loadFloor t h.toRoot)
  write (.persistedFloor (pinnedFloor t floor currentVersion advance)) fun h =>
    { h with floor := some (pinnedFloor t floor currentVersion advance) }

def bootstrapArtifactName : String := "p2pstream_bootstrap_" ++ operatingSystem ++ "_" ++ t.architecture.name

def bootstrapSlot (target : String) (file : Executable) (buildVersion buildCommit : String) : SlotMetadata where
  target
  resultKind := .bootstrap
  manifestSHA256 := ""
  version := target
  commit := ""
  buildVersion
  buildCommit
  releaseSequence := 0
  securityEpoch := 0
  os := operatingSystem
  arch := t.architecture.name
  artifactName := bootstrapArtifactName t
  artifactSize := file.size
  artifactSHA256 := file.sha256

def pinBootstrapSlotMetadata (buildVersion buildCommit : String) : Action Unit := do
  let h ← get
  let target ← require (currentTarget t h.toRoot)
  check (bootstrapVersionPattern target)
  let slot ← require (h.slots.lookup target)
  let file ← require slot.executable
  check (0 < file.size && file.size ≤ maxArtifactSize)
  check (target = bootstrapSlotName file.sha256)
  let metadata := bootstrapSlot t target file buildVersion buildCommit
  check (validateSlotMetadata t metadata)
  match h.metadata with
  | some existing => check (existing = metadata)
  | none => write .wrote fun h => { h with metadata := some metadata }

/-- The pinned configuration, authority and identities either agree or are created; they
are constants of the host, so bootstrap only asks about them. -/
def bootstrapHost (options : BootstrapOptions) : Action Unit := do
  check (validForChannel t options.currentVersion t.channel)
  check (match options.existingTunnel with
    | some (version,commit) => validRelease t version && hexCommitPattern commit
    | none => true)
  let permitted ← choose .asked
  check permitted
  pinBootstrapState t (bootstrapVersionFloor options) !options.reenroll
  let pinned ← choose .asked
  check pinned
  if options.reenroll then pure ()
  else
    match options.existingTunnel with
    | some (version,commit) => pinBootstrapSlotMetadata t version commit
    | none => pinBootstrapSlotMetadata t options.currentVersion options.buildCommit

inductive Input where
  | worker (staging : Staging)
  | elapse (time : Nat)
  | activator (oracle : Oracle) (cut : Option Nat)
  | bootstrap (options : BootstrapOptions) (oracle : Oracle) (cut : Option Nat)

/-- The durable steps of a run that took effect before it ended or was cut off. -/
def effected (cut : Option Nat) (trace : List (HostEvent × Host)) : List (HostEvent × Host) :=
  match cut with
  | none => trace
  | some count => trace.take count

def step (h : Host) : Input → Option (Host × List (HostEvent × Host))
  | .worker staging => some ({ h with staging },[])
  | .elapse time => some ({ h with now := h.now + time },[])
  | .activator oracle cut =>
    let trace := effected cut (runActivator t h oracle).trace
    some (lastState h trace,trace)
  | .bootstrap options oracle cut =>
    let trace := effected cut (bootstrapHost t options h oracle).trace
    some (lastState h trace,trace)

/-- A host as the installer leaves it: a current slot and nothing else. -/
def fresh (now : Int) (current : String) (slot : Slot) : Host where
  now
  staging := {}
  activationClaim := none
  rollbackClaim := none
  current := some current
  slots := (∅ : Table String Slot).insert current slot
  metadata := none
  previous := none
  journal := none
  rollbackJournal := none
  lastActivation := none
  lastRollback := none
  commandFloor := none
  counter := none
  floor := none

end P2pstream.Kernel.Updater
