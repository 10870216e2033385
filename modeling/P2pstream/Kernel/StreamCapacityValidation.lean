import P2pstream.Kernel.StreamCapacityOperations

/-! `validateInvariantsLocked`: the self-check of the stream-capacity ledger,
check by check in the order of the source.
-/
namespace P2pstream.Kernel.StreamCapacity
open Library

inductive Violation where
  | config (error : CapacityConfigError)
  | totalUsage | publicUsage | pooledUsage | controlUsage | totalSplit
  | negativeOwner (owner : Owner)
  | ownerTotals
  | negativeState (c : CapacityClass) (state : LeaseState)
  | stateTotals | pooledStates | publicStates | controlStates
  | sessionOpening (sessionKey : String) | openingTotals
  | sessionPublicOpening (sessionKey : String) | publicOpeningTotals
  | sessionPublic (sessionKey : String) | publicTotals
  | sessionTotal (sessionKey : String) | negotiatedLimit (sessionKey : String) | sessionTotals
  | sessionLimit (sessionKey : String) | unregisteredLimit (sessionKey : String)
  | activeLease (id : Nat) | leaseStates | grantedReleased
  | emptyQueueKey | duplicateQueueKey (queueKey : String) | queueLength (queueKey : String)
  | queuedWaiter (queueKey : String) | queueMap | waiterCount | idleCursor | cursor
  deriving DecidableEq

def CapacityClass.all : List CapacityClass := [.publicPooled,.publicOneShot,.trustedHealth]

def LeaseState.all : List LeaseState := [.opening,.live,.closing]

/-- One `if … { return fmt.Errorf(…) }`, stated by the condition that passes. -/
def require (ok : Prop) [Decidable ok] (violation : Violation) : Except Violation Unit :=
  if ok then .ok () else .error violation

def requireAll {α : Type} (items : List α) (check : α → Except Violation Unit) : Except Violation Unit :=
  items.foldlM (fun _ item => check item) ()

namespace Manager

def validateUsage (m : Manager) : Except Violation Unit := do
  match validateAgentStreamCapacityConfig m.config with
  | some error => throw (.config error)
  | none => pure ()
  require (0 ≤ m.usedTotal ∧ m.usedTotal ≤ m.config.totalStreams) .totalUsage
  require (0 ≤ m.usedPublic ∧ m.usedPublic ≤ m.config.publicStreams) .publicUsage
  require (0 ≤ m.usedPooled ∧ m.usedPooled ≤ m.config.pooledStreams) .pooledUsage
  require (0 ≤ m.usedControl ∧ m.usedControl ≤ m.config.controlStreams) .controlUsage
  require (m.usedTotal = m.usedPublic + m.usedControl) .totalSplit

def validateOwners (m : Manager) : Except Violation Unit := do
  requireAll Owner.all fun owner => require (0 ≤ m.adaptiveExternalBytesByOwner owner ∧
    0 ≤ m.adaptiveExternalFDsByOwner owner ∧ 0 ≤ m.adaptiveExternalReservationsByOwner owner) (.negativeOwner owner)
  let ownerBytes := Owner.all.foldl (fun sum owner => saturatingAddInt64 sum (m.adaptiveExternalBytesByOwner owner)) 0
  let ownerFDs := Owner.all.foldl (fun sum owner => saturatingAddInt64 sum (m.adaptiveExternalFDsByOwner owner)) 0
  require (ownerBytes = m.adaptiveExternalBytes ∧ ownerFDs = m.adaptiveExternalFDs) .ownerTotals

def statesOfClass (m : Manager) (c : CapacityClass) : Int :=
  m.stateByClass c .opening + m.stateByClass c .live + m.stateByClass c .closing

def totalStates (m : Manager) : Int :=
  m.statesOfClass .publicPooled + m.statesOfClass .publicOneShot + m.statesOfClass .trustedHealth

def publicOpeningStates (m : Manager) : Int :=
  m.stateByClass .publicPooled .opening + m.stateByClass .publicOneShot .opening

def totalOpenings (m : Manager) : Int := m.publicOpeningStates + m.stateByClass .trustedHealth .opening

def validateStates (m : Manager) : Except Violation Unit := do
  requireAll CapacityClass.all fun c => requireAll LeaseState.all fun state =>
    require (0 ≤ m.stateByClass c state) (.negativeState c state)
  require (m.totalStates = m.usedTotal ∧ m.totalStates = m.activeLeases.entries.length) .stateTotals
  require (m.statesOfClass .publicPooled = m.usedPooled) .pooledStates
  require (m.statesOfClass .publicPooled + m.statesOfClass .publicOneShot = m.usedPublic) .publicStates
  require (m.statesOfClass .trustedHealth = m.usedControl) .controlStates

def validateSessions (m : Manager) : Except Violation Unit := do
  requireAll m.openingBySession.entries fun ⟨sessionKey,openings⟩ =>
    require (sessionKey ≠ "" ∧ 1 ≤ openings ∧ openings ≤ m.config.maxOpeningPerSession) (.sessionOpening sessionKey)
  require ((Table.values m.openingBySession).sum = m.totalOpenings) .openingTotals
  requireAll m.publicOpeningBySession.entries fun ⟨sessionKey,openings⟩ =>
    require (sessionKey ≠ "" ∧ 1 ≤ openings ∧ openings ≤ m.publicOpeningLimitPerSessionLocked ∧
      openings ≤ Table.getD m.openingBySession sessionKey 0) (.sessionPublicOpening sessionKey)
  require ((Table.values m.publicOpeningBySession).sum = m.publicOpeningStates) .publicOpeningTotals
  requireAll m.publicBySession.entries fun ⟨sessionKey,usage⟩ =>
    require (sessionKey ≠ "" ∧ 1 ≤ usage ∧ usage ≤ m.config.publicStreams) (.sessionPublic sessionKey)
  require ((Table.values m.publicBySession).sum = m.usedPublic) .publicTotals
  requireAll m.totalBySession.entries fun ⟨sessionKey,usage⟩ => do
    require (sessionKey ≠ "" ∧ 1 ≤ usage ∧ usage ≤ m.config.totalStreams) (.sessionTotal sessionKey)
    require ((m.registeredSessions.lookup sessionKey).isSome → usage ≤ m.sessionLimitLocked sessionKey)
      (.negotiatedLimit sessionKey)
  require ((Table.values m.totalBySession).sum = m.usedTotal) .sessionTotals
  requireAll m.sessionLimits.entries fun ⟨sessionKey,limit⟩ => do
    require (sessionKey ≠ "" ∧ 1 ≤ limit ∧ limit ≤ m.config.totalStreams) (.sessionLimit sessionKey)
    require (m.registeredSessions.lookup sessionKey).isSome (.unregisteredLimit sessionKey)

def leasesIn (m : Manager) (c : CapacityClass) (state : LeaseState) : Int :=
  (Table.values m.activeLeases).countP fun lease => lease.capacityClass = c ∧ lease.state = state

def validateLeases (m : Manager) : Except Violation Unit := do
  requireAll m.activeLeases.entries fun ⟨id,lease⟩ => require (lease.id = id) (.activeLease id)
  require (∀ c ∈ CapacityClass.all, ∀ state ∈ LeaseState.all, m.leasesIn c state = m.stateByClass c state)
    .leaseStates
  require ((m.grantedCount : Int) - m.releasedCount = m.activeLeases.entries.length) .grantedReleased

/-- The loop over the round-robin keys with the set of keys seen so far. -/
def validateQueueKeys (m : Manager) : List String → List String → Except Violation Unit
  | _,[] => pure ()
  | seen,queueKey :: rest => do
    require (queueKey ≠ "") .emptyQueueKey
    require (queueKey ∉ seen) (.duplicateQueueKey queueKey)
    require (m.queue queueKey ≠ [] ∧ (m.queue queueKey).length ≤ m.config.maxWaitersPerKey) (.queueLength queueKey)
    requireAll (m.queue queueKey) fun waiter => require (waiter.queueKey = queueKey ∧
      m.waiterStatus.lookup waiter.id = some .queued) (.queuedWaiter queueKey)
    m.validateQueueKeys (queueKey :: seen) rest

def waitersInTurn (m : Manager) : List Waiter := m.queueKeys.flatMap m.queue

def validateQueues (m : Manager) : Except Violation Unit := do
  m.validateQueueKeys [] m.queueKeys
  require (m.queueKeys.length = m.queues.entries.length) .queueMap
  let queuedControl : Int := m.waitersInTurn.countP fun waiter => waiter.capacityClass = .trustedHealth
  let queued : Int := m.waitersInTurn.length
  require (queued = m.waiters ∧ queued - queuedControl ≤ m.config.maxWaiters ∧
    queuedControl ≤ max 1 m.config.controlStreams) .waiterCount
  require (m.queueKeys.length = 0 → m.nextQueueKey = 0) .idleCursor
  require (m.queueKeys.length > 0 → m.nextQueueKey < m.queueKeys.length) .cursor

def validateInvariantsLocked (m : Manager) : Except Violation Unit := do
  m.validateUsage
  m.validateOwners
  m.validateStates
  m.validateSessions
  m.validateLeases
  m.validateQueues

end Manager

end P2pstream.Kernel.StreamCapacity
