import P2pstream.Library.RoundRobin
import P2pstream.Kernel.StreamCapacityOperations

/-! Independent meaning of the stream-capacity ledger. A ledger is an account of
its outstanding leases, a line is a set of waiters in keyed queues under one
rotation, and the external totals are an account of outstanding reservations.
None of these definitions uses the counters' update rules.
-/
namespace P2pstream.Semantics.StreamCapacity
open Library Library.RoundRobin Table
open Kernel.StreamCapacity Kernel.AdaptiveMemory

structure Books where
  usedTotal : Int
  usedPublic : Int
  usedPooled : Int
  usedControl : Int
  stateByClass : CapacityClass → LeaseState → Int
  openingBySession : Table String Int
  publicOpeningBySession : Table String Int
  publicBySession : Table String Int
  totalBySession : Table String Int
  activeLeases : Table Nat Lease
  nextLeaseID : Nat
  grantedCount : Nat
  releasedCount : Nat

def books (m : Manager) : Books :=
  ⟨m.usedTotal,m.usedPublic,m.usedPooled,m.usedControl,m.stateByClass,m.openingBySession,
    m.publicOpeningBySession,m.publicBySession,m.totalBySession,m.activeLeases,m.nextLeaseID,
    m.grantedCount,m.releasedCount⟩

def isOpening (lease : Lease) : Bool := lease.state = .opening

def isPublic (lease : Lease) : Bool := lease.capacityClass.isPublic

/-- The sessions of the leases a predicate selects, one entry a lease. -/
def sessionsOf (select : Lease → Bool) (leases : List Lease) : List String :=
  (leases.filter select).map Lease.sessionKey

structure Accounts (b : Books) (leases : List Lease) : Prop where
  total : b.usedTotal = leases.length
  publics : b.usedPublic = leases.countP isPublic
  pooled : b.usedPooled = leases.countP fun lease => lease.capacityClass = .publicPooled
  control : b.usedControl = leases.countP fun lease => lease.capacityClass = .trustedHealth
  states : ∀ c state, b.stateByClass c state =
    leases.countP fun lease => lease.capacityClass = c ∧ lease.state = state
  openings : Table.Tallies b.openingBySession (sessionsOf isOpening leases)
  publicOpenings : Table.Tallies b.publicOpeningBySession (sessionsOf (fun l => isOpening l && isPublic l) leases)
  publicSessions : Table.Tallies b.publicBySession (sessionsOf isPublic leases)
  sessions : Table.Tallies b.totalBySession (sessionsOf (fun _ => true) leases)
  named : ∀ lease ∈ leases, lease.sessionKey ≠ ""
  balance : b.grantedCount = b.releasedCount + leases.length

/-- The books account for exactly the active leases, each under its own number. -/
structure Ledger (b : Books) : Prop where
  accounts : Accounts b (values b.activeLeases)
  numbered : ∀ id lease, b.activeLeases.lookup id = some lease → lease.id = id ∧ id ≤ b.nextLeaseID

structure WithinLimits (m : Manager) : Prop where
  total : m.usedTotal ≤ m.config.totalStreams
  publics : m.usedPublic ≤ m.config.publicStreams
  pooled : m.usedPooled ≤ m.config.pooledStreams
  control : m.usedControl ≤ m.config.controlStreams
  openings : ∀ session, getD m.openingBySession session 0 ≤ m.config.maxOpeningPerSession
  publicOpenings : ∀ session,
    getD m.publicOpeningBySession session 0 ≤ m.publicOpeningLimitPerSessionLocked
  publicSessions : ∀ session, getD m.publicBySession session 0 ≤ m.config.publicStreams
  sessions : ∀ session ∈ m.registeredSessions,
    getD m.totalBySession session 0 ≤ m.sessionLimitLocked session
  negotiated : ∀ session limit, m.sessionLimits.lookup session = some limit →
    session ≠ "" ∧ 1 ≤ limit ∧ limit ≤ m.config.totalStreams ∧ session ∈ m.registeredSessions

/-- What it means that a constraint stands in the way of a stream of a class and a
session; the constraints of the queues and of a disabled class are not about capacity. -/
def Fails (m : Manager) (c : CapacityClass) (sessionKey : String) : Constraint → Prop
  | .resourcePressure => m.adaptiveRefuses c = true
  | .totalBudget => m.config.totalStreams ≤ m.usedTotal
  | .sessionBudget => m.sessionLimitLocked sessionKey ≤ getD m.totalBySession sessionKey 0 ∨
      c.isPublic = true ∧ m.publicSessionLimitLocked sessionKey ≤ getD m.publicBySession sessionKey 0
  | .sessionOpeningLimit => m.config.maxOpeningPerSession ≤ getD m.openingBySession sessionKey 0 ∨
      c.isPublic = true ∧ m.publicOpeningLimitPerSessionLocked ≤ getD m.publicOpeningBySession sessionKey 0
  | .publicBudget => c.isPublic = true ∧ m.config.publicStreams ≤ m.usedPublic
  | .pooledBudget => c = .publicPooled ∧ m.config.pooledStreams ≤ m.usedPooled
  | .controlBudget => c = .trustedHealth ∧ m.config.controlStreams ≤ m.usedControl
  | _ => False

structure QueueState where
  queues : Table String (List Waiter)
  queueKeys : List String
  nextQueueKey : Nat
  waiters : Int
  waiterStatus : Table Nat WaiterStatus
  nextWaiterID : Nat

def queueState (m : Manager) : QueueState :=
  ⟨m.queues,m.queueKeys,m.nextQueueKey,m.waiters,m.waiterStatus,m.nextWaiterID⟩

def turn (m : Manager) : List String := m.queueKeys.rotate m.nextQueueKey

def CursorInside (keys : List String) (cursor : Nat) : Prop :=
  cursor < keys.length ∨ (keys = [] ∧ cursor = 0)

/-- Every queued waiter stands in exactly one queue, that of its own key, and the
rotation lists exactly the keys whose queues are not empty. -/
structure Line (q : QueueState) : Prop where
  cursor : CursorInside q.queueKeys q.nextQueueKey
  distinct : q.queueKeys.Nodup
  listed : ∀ key, key ∈ q.queueKeys ↔ key ∈ q.queues
  occupied : ∀ key ∈ q.queues, queueOf q.queues key ≠ []
  owned : ∀ key, ∀ waiter ∈ queueOf q.queues key, waiter.queueKey = key
  named : ∀ waiter ∈ waiting q.queues, waiter.queueKey ≠ "" ∧ waiter.sessionKey ≠ ""
  counted : q.waiters = (waiting q.queues).length
  once : ((waiting q.queues).map Waiter.id).Nodup
  status : ∀ id, q.waiterStatus.lookup id = some .queued ↔ id ∈ (waiting q.queues).map Waiter.id
  allocated : ∀ id ∈ q.waiterStatus, id < q.nextWaiterID

structure LineLimits (m : Manager) : Prop where
  perKey : ∀ key, ((m.queue key).length : Int) ≤ m.config.maxWaitersPerKey
  publics : (m.queuedWaiters.countP fun waiter => waiter.capacityClass ≠ .trustedHealth) ≤ m.config.maxWaiters
  control : (m.queuedWaiters.countP fun waiter => waiter.capacityClass = .trustedHealth) ≤
    max 1 m.config.controlStreams

structure Resources where
  adaptiveMemory : Option Nat
  resourceSnapshot : Snapshot
  adaptiveSampling : Int
  adaptiveExternalBytes : Int
  adaptiveExternalFDs : Int
  legacyStreamSupplementBytes : Int
  adaptiveExternalBytesByOwner : Owner → Int
  adaptiveExternalFDsByOwner : Owner → Int
  adaptiveExternalReservationsByOwner : Owner → Int

def resources (m : Manager) : Resources :=
  ⟨m.adaptiveMemory,m.resourceSnapshot,m.adaptiveSampling,m.adaptiveExternalBytes,m.adaptiveExternalFDs,
    m.legacyStreamSupplementBytes,m.adaptiveExternalBytesByOwner,m.adaptiveExternalFDsByOwner,
    m.adaptiveExternalReservationsByOwner⟩

structure Environment where
  config : CapacityConfig
  registeredSessions : Table String Unit
  sessionLimits : Table String Int
  resources : Resources

def environment (m : Manager) : Environment := ⟨m.config,m.registeredSessions,m.sessionLimits,resources m⟩

def bytesOf (owner : Owner) (rs : List Reservation) : Int :=
  ((rs.filter fun r => r.owner = owner).map Reservation.memoryBytes).sum

def descriptorsOf (owner : Owner) (rs : List Reservation) : Int :=
  ((rs.filter fun r => r.owner = owner).map Reservation.fileDescriptors).sum

structure Externals (m : Manager) (rs : List Reservation) : Prop where
  bytes : m.adaptiveExternalBytes = (rs.map Reservation.memoryBytes).sum
  fds : m.adaptiveExternalFDs = (rs.map Reservation.fileDescriptors).sum
  ownerBytes : ∀ owner, m.adaptiveExternalBytesByOwner owner = bytesOf owner rs
  ownerFDs : ∀ owner, m.adaptiveExternalFDsByOwner owner = descriptorsOf owner rs
  nonneg : ∀ r ∈ rs, 0 ≤ r.memoryBytes ∧ 0 ≤ r.fileDescriptors
  fits : m.adaptiveExternalBytes ≤ maxInt64 ∧ m.adaptiveExternalFDs ≤ maxInt64
  counts : ∀ owner, 0 ≤ m.adaptiveExternalReservationsByOwner owner
  legacy : 0 ≤ m.legacyStreamSupplementBytes

/-- The ledger and the line of an accepted configuration, limits apart. -/
structure Regular (m : Manager) : Prop where
  config : validateAgentStreamCapacityConfig m.config = none
  ledger : Ledger (books m)
  line : Line (queueState m)

/-- The lease and waiter side of a manager is consistent and within its limits. -/
structure Sound (m : Manager) : Prop extends Regular m where
  limits : WithinLimits m
  lineLimits : LineLimits m

end P2pstream.Semantics.StreamCapacity
