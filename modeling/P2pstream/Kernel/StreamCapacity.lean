import P2pstream.Library.Tables
import P2pstream.Kernel.AdaptiveMemory

/-! Executable model of the ledger and waiter queues of
`agentStreamCapacityManager` (`internal/server/agent_stream_capacity.go`). Each
definition is one function that runs with the mutex held. Wall-clock fields used
only by the metrics snapshot are left out; a released lease is one that has left
`activeLeases`, and pointers to waiters, contexts and controllers are numbers.
-/
namespace P2pstream.Kernel.StreamCapacity
open Library Kernel.AdaptiveMemory Table

inductive CapacityClass where
  | publicPooled | publicOneShot | trustedHealth
  deriving DecidableEq

def CapacityClass.isPublic : CapacityClass → Bool
  | .publicPooled | .publicOneShot => true
  | .trustedHealth => false

inductive LeaseState where
  | opening | live | closing
  deriving DecidableEq

inductive Owner where
  | other | publicConnection | publicHandshake | publicRequest | publicResponse
  | directConnection | replayBuffer | receiveWindow
  deriving DecidableEq

def Owner.all : List Owner :=
  [.other,.publicConnection,.publicHandshake,.publicRequest,.publicResponse,.directConnection,
    .replayBuffer,.receiveWindow]

inductive Constraint where
  | classDisabled | totalBudget | publicBudget | pooledBudget | controlBudget | sessionBudget
  | sessionOpeningLimit | waitTurn | queueFull | keyQueueFull | resourcePressure
  deriving DecidableEq

structure CapacityConfig where
  totalStreams : Int
  publicStreams : Int
  pooledStreams : Int
  controlStreams : Int
  maxWaiters : Int
  maxWaitersPerKey : Int
  maxOpeningPerSession : Int
  reservedPublicForOtherSessions : Int
  deriving DecidableEq

structure Lease where
  id : Nat
  capacityClass : CapacityClass
  queueKey : String
  sessionKey : String
  state : LeaseState
  deriving DecidableEq

structure Waiter where
  id : Nat
  capacityClass : CapacityClass
  queueKey : String
  sessionKey : String
  ctx : Nat
  deriving DecidableEq

/-- `granted` holds the lease until the waiting goroutine takes it. -/
inductive WaiterStatus where
  | queued
  | granted (lease : Option Nat)
  | canceled (constraint : Constraint)
  deriving DecidableEq

structure Manager where
  config : CapacityConfig
  adaptiveMemory : Option Nat
  resourceSnapshot : Snapshot
  adaptiveSampling : Int
  usedTotal : Int
  usedPublic : Int
  usedPooled : Int
  usedControl : Int
  adaptiveExternalBytes : Int
  adaptiveExternalFDs : Int
  legacyStreamSupplementBytes : Int
  adaptiveExternalBytesByOwner : Owner → Int
  adaptiveExternalFDsByOwner : Owner → Int
  adaptiveExternalReservationsByOwner : Owner → Int
  stateByClass : CapacityClass → LeaseState → Int
  openingBySession : Table String Int
  publicOpeningBySession : Table String Int
  publicBySession : Table String Int
  totalBySession : Table String Int
  registeredSessions : Table String Unit
  sessionLimits : Table String Int
  activeLeases : Table Nat Lease
  nextLeaseID : Nat
  grantedCount : Nat
  releasedCount : Nat
  admissionMissesByConstraint : Constraint → Nat
  queues : Table String (List Waiter)
  queueKeys : List String
  nextQueueKey : Nat
  waiters : Int
  waiterStatus : Table Nat WaiterStatus
  nextWaiterID : Nat

/-- `a[i][j] += delta`. -/
def bump (counts : CapacityClass → LeaseState → Int) (c : CapacityClass) (s : LeaseState) (delta : Int) :
    CapacityClass → LeaseState → Int :=
  fun other state => if other = c ∧ state = s then counts other state + delta else counts other state

def setOwner (amounts : Owner → Int) (owner : Owner) (amount : Int) : Owner → Int :=
  fun candidate => if candidate = owner then amount else amounts candidate

def defaultAgentStreamCapacityControlStreams : Int := 4

namespace Manager

def queue (m : Manager) (key : String) : List Waiter := getD m.queues key []

def queuedWaiters (m : Manager) : List Waiter := (values m.queues).flatten

def adaptiveEffectiveAdmissionLimitLocked (m : Manager) : Int :=
  max 0 (m.resourceSnapshot.admissionLimitWithExternal m.adaptiveExternalBytes m.adaptiveExternalFDs)

def adaptiveProtectedControlLocked (m : Manager) : Int :=
  let reserve := min m.config.controlStreams defaultAgentStreamCapacityControlStreams
  let effective := m.adaptiveEffectiveAdmissionLimitLocked
  if reserve ≥ effective then max 0 (effective - 1) else reserve

def adaptivePublicLimitLocked (m : Manager) : Int :=
  let limit := m.adaptiveEffectiveAdmissionLimitLocked - m.adaptiveProtectedControlLocked
  if limit < 0 then 0 else if limit > m.config.publicStreams then m.config.publicStreams else limit

def sessionLimitLocked (m : Manager) (sessionKey : String) : Int :=
  let limit := getD m.sessionLimits sessionKey 0
  if limit > 0 ∧ limit < m.config.totalStreams then limit else m.config.totalStreams

def hasPublicWaiterForOtherSessionLocked (m : Manager) (sessionKey : String) : Bool :=
  m.queuedWaiters.any fun waiter => waiter.sessionKey ≠ sessionKey && waiter.capacityClass ≠ .trustedHealth

def publicSessionLimitLocked (m : Manager) (sessionKey : String) : Int :=
  if m.config.reservedPublicForOtherSessions ≤ 0 ∨ m.registeredSessions.entries.length ≤ 1 ∨
      ¬ m.hasPublicWaiterForOtherSessionLocked sessionKey then m.config.publicStreams
  else if (m.registeredSessions.lookup sessionKey).isNone then m.config.publicStreams
  else m.config.publicStreams - m.config.reservedPublicForOtherSessions

def publicOpeningLimitPerSessionLocked (m : Manager) : Int :=
  let limit := m.config.maxOpeningPerSession
  if limit ≥ m.config.totalStreams ∨ m.config.controlStreams ≤ 0 ∨ limit ≤ 1 then limit
  else
    let reserve := min m.config.controlStreams defaultAgentStreamCapacityControlStreams
    limit - if reserve ≥ limit then limit - 1 else reserve

def classEnabledLocked (m : Manager) : CapacityClass → Bool
  | .publicPooled => m.config.publicStreams > 0 && m.config.pooledStreams > 0
  | .publicOneShot => m.config.publicStreams > 0
  | .trustedHealth => m.config.controlStreams > 0

/-- The adaptive refusals; none apply to a manager without a controller. -/
def adaptiveRefuses (m : Manager) (c : CapacityClass) : Bool :=
  m.adaptiveMemory.isSome && (m.resourceSnapshot.rejectNew ||
    m.usedTotal ≥ m.adaptiveEffectiveAdmissionLimitLocked ||
    (c ≠ .trustedHealth && m.usedPublic ≥ m.adaptivePublicLimitLocked))

def publicAllows (m : Manager) (sessionKey : String) : Bool :=
  m.usedPublic < m.config.publicStreams &&
    getD m.publicBySession sessionKey 0 < m.publicSessionLimitLocked sessionKey &&
    getD m.publicOpeningBySession sessionKey 0 < m.publicOpeningLimitPerSessionLocked

def canGrantLocked (m : Manager) (c : CapacityClass) (sessionKey : String) : Bool :=
  if m.adaptiveRefuses c ∨ m.usedTotal ≥ m.config.totalStreams ∨
      getD m.totalBySession sessionKey 0 ≥ m.sessionLimitLocked sessionKey ∨
      getD m.openingBySession sessionKey 0 ≥ m.config.maxOpeningPerSession then false
  else match c with
    | .publicPooled => m.publicAllows sessionKey && m.usedPooled < m.config.pooledStreams
    | .publicOneShot => m.publicAllows sessionKey
    | .trustedHealth => m.usedControl < m.config.controlStreams

/-- The constraint of the two public classes apart from the pooled budget. -/
def publicConstraint (m : Manager) (sessionKey : String) : Constraint :=
  if m.usedPublic ≥ m.config.publicStreams then .publicBudget
  else if getD m.publicBySession sessionKey 0 ≥ m.publicSessionLimitLocked sessionKey then .sessionBudget
  else if getD m.openingBySession sessionKey 0 ≥ m.config.maxOpeningPerSession ∨
      getD m.publicOpeningBySession sessionKey 0 ≥ m.publicOpeningLimitPerSessionLocked then
    .sessionOpeningLimit
  else .waitTurn

def adaptivePressure (m : Manager) (c : CapacityClass) : Bool :=
  let adaptiveTotal := m.adaptiveEffectiveAdmissionLimitLocked
  let adaptivePublic := m.adaptivePublicLimitLocked
  m.adaptiveMemory.isSome && (m.resourceSnapshot.rejectNew ||
    (adaptiveTotal < m.config.totalStreams && m.usedTotal ≥ adaptiveTotal) ||
    (c ≠ .trustedHealth && adaptivePublic < m.config.publicStreams && m.usedPublic ≥ adaptivePublic))

def blockingConstraintLocked (m : Manager) (c : CapacityClass) (sessionKey : String) : Constraint :=
  if m.adaptivePressure c then .resourcePressure
  else if m.usedTotal ≥ m.config.totalStreams then .totalBudget
  else if getD m.totalBySession sessionKey 0 ≥ m.sessionLimitLocked sessionKey then .sessionBudget
  else match c with
    | .publicPooled =>
      if m.publicConstraint sessionKey ≠ .waitTurn then m.publicConstraint sessionKey
      else if m.usedPooled ≥ m.config.pooledStreams then .pooledBudget else .waitTurn
    | .publicOneShot => m.publicConstraint sessionKey
    | .trustedHealth =>
      if m.usedControl ≥ m.config.controlStreams then .controlBudget
      else if getD m.openingBySession sessionKey 0 ≥ m.config.maxOpeningPerSession then
        .sessionOpeningLimit
      else .waitTurn

def waiterCountForClassLocked (m : Manager) (c : CapacityClass) : Int :=
  m.queuedWaiters.countP fun waiter => waiter.capacityClass = c

def hasCompetingWaiterLocked (m : Manager) (c : CapacityClass) : Bool :=
  m.queuedWaiters.any fun waiter =>
    waiter.capacityClass.isPublic = c.isPublic && m.canGrantLocked waiter.capacityClass waiter.sessionKey

def recordRejectionLocked (m : Manager) (constraint : Constraint) : Manager :=
  { m with admissionMissesByConstraint := fun other =>
      m.admissionMissesByConstraint other + if other = constraint then 1 else 0 }

def grantLocked (m : Manager) (c : CapacityClass) (queueKey sessionKey : String) : Manager × Lease :=
  let lease : Lease := ⟨m.nextLeaseID + 1,c,queueKey,sessionKey,.opening⟩
  ({ m with
      nextLeaseID := m.nextLeaseID + 1
      usedTotal := m.usedTotal + 1
      totalBySession := increment m.totalBySession sessionKey
      usedPublic := if c.isPublic then m.usedPublic + 1 else m.usedPublic
      usedPooled := if c = .publicPooled then m.usedPooled + 1 else m.usedPooled
      usedControl := if c = .trustedHealth then m.usedControl + 1 else m.usedControl
      publicBySession := if c.isPublic then increment m.publicBySession sessionKey else m.publicBySession
      publicOpeningBySession := if c.isPublic then increment m.publicOpeningBySession sessionKey
        else m.publicOpeningBySession
      stateByClass := bump m.stateByClass c .opening 1
      openingBySession := increment m.openingBySession sessionKey
      activeLeases := m.activeLeases.insert lease.id lease
      grantedCount := m.grantedCount + 1 },lease)

def enqueueLocked (m : Manager) (waiter : Waiter) : Manager :=
  { m with
    queueKeys := if (m.queue waiter.queueKey).isEmpty then m.queueKeys ++ [waiter.queueKey] else m.queueKeys
    queues := m.queues.insert waiter.queueKey (m.queue waiter.queueKey ++ [waiter])
    waiters := m.waiters + 1 }

def removeQueueKeyAtLocked (m : Manager) (index : Nat) : Manager :=
  let queueKeys := m.queueKeys.eraseIdx index
  if queueKeys.isEmpty then { m with queueKeys, nextQueueKey := 0 }
  else
    let nextQueueKey := if index < m.nextQueueKey then m.nextQueueKey - 1 else m.nextQueueKey
    { m with queueKeys, nextQueueKey := if nextQueueKey ≥ queueKeys.length then 0 else nextQueueKey }

def popQueueEntryLocked (m : Manager) (index waiterIndex : Nat) (advance : Bool) : Manager :=
  let queueKey := m.queueKeys.getD index ""
  let queue := (m.queue queueKey).eraseIdx waiterIndex
  let m := { m with waiters := m.waiters - 1 }
  if queue.isEmpty then { m with queues := m.queues.erase queueKey }.removeQueueKeyAtLocked index
  else { m with
    queues := m.queues.insert queueKey queue
    nextQueueKey := if advance then (index + 1) % m.queueKeys.length else index }

def removeWaiterLocked (m : Manager) (waiter : Waiter) : Manager :=
  match (m.queue waiter.queueKey).findIdx? (fun candidate => candidate.id = waiter.id) with
  | none => m
  | some index =>
    let queue := (m.queue waiter.queueKey).eraseIdx index
    let m := { m with waiters := m.waiters - 1 }
    if !queue.isEmpty then { m with queues := m.queues.insert waiter.queueKey queue }
    else
      let m := { m with queues := m.queues.erase waiter.queueKey }
      match m.queueKeys.findIdx? (· = waiter.queueKey) with
      | none => m
      | some keyIndex => m.removeQueueKeyAtLocked keyIndex

def setStatus (m : Manager) (waiter : Nat) (status : WaiterStatus) : Manager :=
  { m with waiterStatus := m.waiterStatus.insert waiter status }

end Manager

/-- What an operation did besides its effect on the ledger. A grant records the
ledger in which it was decided and the one it left; `waiter` is the queued
waiter that dispatch served, or `none` for a caller that did not wait. -/
inductive Event where
  | grant (decided : Manager) (lease : Lease) (waiter : Option Waiter) (left : Manager)
  | reserve (decided : Manager) (left : Manager)
  | expire (waiter : Waiter)
  | dropKey (queueKey : String)

namespace Manager

/-- The first waiter of a queue that dispatch acts on: its context has ended or
it can be granted. -/
def firstReady (m : Manager) (expired : Waiter → Bool) : Nat → List Waiter → Option (Nat × Waiter)
  | _,[] => none
  | waiterIndex,waiter :: rest =>
    if expired waiter || m.canGrantLocked waiter.capacityClass waiter.sessionKey then some (waiterIndex,waiter)
    else m.firstReady expired (waiterIndex + 1) rest

def serveWaiter (m : Manager) (expired : Waiter → Bool) (index waiterIndex : Nat) (waiter : Waiter) :
    Manager × Event :=
  if expired waiter then
    let constraint := m.blockingConstraintLocked waiter.capacityClass waiter.sessionKey
    let popped := (m.recordRejectionLocked constraint).popQueueEntryLocked index waiterIndex false
    (popped.setStatus waiter.id (.canceled constraint),.expire waiter)
  else
    let popped := m.popQueueEntryLocked index waiterIndex true
    let (granted,lease) := popped.grantLocked waiter.capacityClass waiter.queueKey waiter.sessionKey
    let left := granted.setStatus waiter.id (.granted (some lease.id))
    (left,.grant m lease (some waiter) left)

/-- One pass over the keys from the cursor; `remaining` is
`len(m.queueKeys) - scanned`. The event is absent when the pass made no progress. -/
def scanKeys (expired : Waiter → Bool) : Nat → Manager → Manager × Option Event
  | 0,m => (m,none)
  | remaining + 1,m =>
    let m := if m.nextQueueKey ≥ m.queueKeys.length then { m with nextQueueKey := 0 } else m
    let index := m.nextQueueKey
    let queueKey := m.queueKeys.getD index ""
    if (m.queue queueKey).isEmpty then (m.removeQueueKeyAtLocked index,some (.dropKey queueKey))
    else match m.firstReady expired 0 (m.queue queueKey) with
      | some (waiterIndex,waiter) =>
        let (served,event) := m.serveWaiter expired index waiterIndex waiter
        (served,some event)
      | none => scanKeys expired remaining { m with nextQueueKey := (index + 1) % m.queueKeys.length }

/-- The outer loop of `dispatchLocked`; `none` means it did not finish within the fuel. A pass
looks at a waiter once, and `err` has what `ctx.Err() != nil` is at each look. -/
def dispatchLoop (err : Nat → Waiter → Bool) : Nat → Manager → Option (Manager × List Event)
  | 0,_ => none
  | fuel + 1,m =>
    if m.waiters > 0 ∧ m.queueKeys.length > 0 then
      match scanKeys (err 0) m.queueKeys.length m with
      | (m,none) => some (m,[])
      | (m,some event) => (dispatchLoop (fun pass => err (pass + 1)) fuel m).map fun (m,events) => (m,event :: events)
    else some (m,[])

def dispatchFuel (m : Manager) : Nat := m.queuedWaiters.length + m.queueKeys.length + 1

def dispatchLocked (err : Nat → Waiter → Bool) (m : Manager) : Manager × List Event :=
  if m.adaptiveSampling > 0 then (m,[])
  else (dispatchLoop err m.dispatchFuel m).getD (m,[])

end Manager

end P2pstream.Kernel.StreamCapacity
