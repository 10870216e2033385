import P2pstream.Kernel.StreamCapacity

/-! The mutex-atomic operations of `agentStreamCapacityManager`: construction,
admission, waiter cancellation, lease transitions, sessions, external resource
reservations and adaptive refresh. `expired` is `ctx.Err() != nil` when the operation
begins, `err` the same at each look of its dispatch.
-/
namespace P2pstream.Kernel.StreamCapacity
open Library Kernel.AdaptiveMemory

inductive CapacityConfigError where
  | total | publicRange | pooledRange | controlRange | publicPlusControl | maxWaiters
  | maxWaitersPerKey | waitersPerKeyZero | maxOpeningPerSession | reservedPublic
  deriving DecidableEq

def validateAgentStreamCapacityConfig (c : CapacityConfig) : Option CapacityConfigError :=
  if c.totalStreams < 1 then some .total
  else if c.publicStreams < 0 ∨ c.publicStreams > c.totalStreams then some .publicRange
  else if c.pooledStreams < 0 ∨ c.pooledStreams > c.publicStreams then some .pooledRange
  else if c.controlStreams < 0 ∨ c.controlStreams > c.totalStreams then some .controlRange
  else if c.publicStreams + c.controlStreams > c.totalStreams then some .publicPlusControl
  else if c.maxWaiters < 0 then some .maxWaiters
  else if c.maxWaitersPerKey < 0 ∨ c.maxWaitersPerKey > c.maxWaiters then some .maxWaitersPerKey
  else if c.maxWaiters > 0 ∧ c.maxWaitersPerKey = 0 then some .waitersPerKeyZero
  else if c.maxOpeningPerSession < 1 then some .maxOpeningPerSession
  else if c.reservedPublicForOtherSessions < 0 ∨
      (c.publicStreams > 0 ∧ c.reservedPublicForOtherSessions ≥ c.publicStreams) then some .reservedPublic
  else none

/-- The zero ledger of `newAgentStreamCapacityManager`. -/
def emptyManager (config : CapacityConfig) : Manager where
  config := config
  adaptiveMemory := none
  resourceSnapshot := { level := .unknown, admissionLimit := config.totalStreams, maximum := config.totalStreams }
  adaptiveSampling := 0
  usedTotal := 0
  usedPublic := 0
  usedPooled := 0
  usedControl := 0
  adaptiveExternalBytes := 0
  adaptiveExternalFDs := 0
  legacyStreamSupplementBytes := 0
  adaptiveExternalBytesByOwner := fun _ => 0
  adaptiveExternalFDsByOwner := fun _ => 0
  adaptiveExternalReservationsByOwner := fun _ => 0
  stateByClass := fun _ _ => 0
  openingBySession := ∅
  publicOpeningBySession := ∅
  publicBySession := ∅
  totalBySession := ∅
  registeredSessions := ∅
  sessionLimits := ∅
  activeLeases := ∅
  nextLeaseID := 0
  grantedCount := 0
  releasedCount := 0
  admissionMissesByConstraint := fun _ => 0
  queues := ∅
  queueKeys := []
  nextQueueKey := 0
  waiters := 0
  waiterStatus := ∅
  nextWaiterID := 0

def newAgentStreamCapacityManager (config : CapacityConfig) : Except CapacityConfigError Manager :=
  match validateAgentStreamCapacityConfig config with
  | some error => .error error
  | none => .ok (emptyManager config)

def saturatingAddInt64 (left right : Int) : Int :=
  if right ≤ 0 then left else if left > maxInt64 - right then maxInt64 else left + right

inductive AcquireResult where
  | lease (id : Nat)
  | emptyQueueKey
  | emptySessionKey
  | contextDone
  | refused (constraint : Constraint)
  | waiting (waiter : Waiter)
  deriving DecidableEq

inductive ReserveResult where
  | unconstrained | refused | reserved
  deriving DecidableEq

structure Reservation where
  owner : Owner
  memoryBytes : Int
  fileDescriptors : Int
  legacyStreamSupplement : Bool
  deriving DecidableEq

/-- A refresh between its two critical sections. `next` is what the controller
returned, once it has. -/
structure Refresh where
  controller : Nat
  force : Bool
  sampling : Bool
  maximum : Int
  inUse : Int
  next : Option Snapshot
  deriving DecidableEq

/-- `tunnel.MaxAdaptiveConcurrentStreamsLimit`. -/
def maxAdaptiveConcurrentStreamsLimit : Int := 65536

namespace Manager

/-- The bound on how many waiters of a class may queue has been reached. -/
def queueLimitReached (m : Manager) (c : CapacityClass) : Bool :=
  if c = .trustedHealth then m.waiterCountForClassLocked c ≥ max 1 m.config.controlStreams
  else m.waiters - m.waiterCountForClassLocked .trustedHealth ≥ m.config.maxWaiters

def newWaiter (m : Manager) (ctx : Nat) (c : CapacityClass) (queueKey sessionKey : String) : Manager × Waiter :=
  let waiter : Waiter := ⟨m.nextWaiterID,c,queueKey,sessionKey,ctx⟩
  (({ m with nextWaiterID := m.nextWaiterID + 1 }.setStatus waiter.id .queued).enqueueLocked waiter,waiter)

def acquire (expired : Nat → Bool) (err : Nat → Waiter → Bool) (m : Manager) (ctx : Nat) (c : CapacityClass)
    (queueKey sessionKey : String) : Manager × AcquireResult × List Event :=
  if queueKey = "" then (m,.emptyQueueKey,[])
  else if sessionKey = "" then (m,.emptySessionKey,[])
  else if expired ctx then (m,.contextDone,[])
  else if !m.classEnabledLocked c then (m.recordRejectionLocked .classDisabled,.refused .classDisabled,[])
  else if !m.hasCompetingWaiterLocked c && m.canGrantLocked c sessionKey then
    let (left,lease) := m.grantLocked c queueKey sessionKey
    (left,.lease lease.id,[.grant m lease none left])
  else if m.queueLimitReached c then (m.recordRejectionLocked .queueFull,.refused .queueFull,[])
  else if (m.queue queueKey).length ≥ m.config.maxWaitersPerKey then
    (m.recordRejectionLocked .keyQueueFull,.refused .keyQueueFull,[])
  else
    let (queued,waiter) := m.newWaiter ctx c queueKey sessionKey
    let (left,events) := dispatchLocked err queued
    (left,.waiting waiter,events)

def tryAcquire (m : Manager) (c : CapacityClass) (queueKey sessionKey : String) :
    Manager × AcquireResult × List Event :=
  if queueKey = "" then (m,.emptyQueueKey,[])
  else if sessionKey = "" then (m,.emptySessionKey,[])
  else if !m.classEnabledLocked c then (m.recordRejectionLocked .classDisabled,.refused .classDisabled,[])
  else if m.hasCompetingWaiterLocked c then (m.recordRejectionLocked .waitTurn,.refused .waitTurn,[])
  else
    let constraint := m.blockingConstraintLocked c sessionKey
    if constraint ≠ .waitTurn then (m.recordRejectionLocked constraint,.refused constraint,[])
    else
      let (left,lease) := m.grantLocked c queueKey sessionKey
      (left,.lease lease.id,[.grant m lease none left])

/-- The `ctx.Done()` arm of the wait in `acquire`. A lease that was already
granted is taken from the waiter; the caller releases it afterwards. -/
def cancelWaiter (err : Nat → Waiter → Bool) (m : Manager) (waiter : Waiter) : Manager × List Event :=
  match m.waiterStatus.lookup waiter.id with
  | some .queued =>
    let constraint := m.blockingConstraintLocked waiter.capacityClass waiter.sessionKey
    let removed := (m.recordRejectionLocked constraint).removeWaiterLocked waiter
    dispatchLocked err (removed.setStatus waiter.id (.canceled constraint))
  | some (.granted _) => (m.setStatus waiter.id (.granted none),[])
  | _ => (m,[])

/-- The `waiter.ready` arm: a lease whose context has ended is taken from the
waiter and released afterwards, otherwise it is returned as it is. -/
def waiterReady (expired : Nat → Bool) (m : Manager) (waiter : Waiter) : Manager :=
  match m.waiterStatus.lookup waiter.id with
  | some (.granted (some _)) => if expired waiter.ctx then m.setStatus waiter.id (.granted none) else m
  | _ => m

def releaseSessionOpeningLocked (m : Manager) (c : CapacityClass) (sessionKey : String) : Manager :=
  { m with
    openingBySession := Table.decrement m.openingBySession sessionKey
    publicOpeningBySession := if c.isPublic then Table.decrement m.publicOpeningBySession sessionKey
      else m.publicOpeningBySession }

/-- Move a lease between states; leaving `opening` frees its session opening. -/
def moveLease (m : Manager) (lease : Lease) (state : LeaseState) : Manager :=
  let m := if lease.state = .opening then m.releaseSessionOpeningLocked lease.capacityClass lease.sessionKey else m
  { m with
    stateByClass := bump (bump m.stateByClass lease.capacityClass lease.state (-1)) lease.capacityClass state 1
    activeLeases := m.activeLeases.insert lease.id { lease with state } }

def markLive (err : Nat → Waiter → Bool) (m : Manager) (id : Nat) : Manager × Bool × List Event :=
  match m.activeLeases.lookup id with
  | some lease =>
    if lease.state = .opening then
      let (left,events) := dispatchLocked err (m.moveLease lease .live)
      (left,true,events)
    else (m,false,[])
  | none => (m,false,[])

def markClosing (err : Nat → Waiter → Bool) (m : Manager) (id : Nat) : Manager × Bool × List Event :=
  match m.activeLeases.lookup id with
  | some lease =>
    if lease.state = .closing then (m,false,[])
    else
      let (left,events) := dispatchLocked err (m.moveLease lease .closing)
      (left,true,events)
  | none => (m,false,[])

/-- The ledger part of `release`, before it dispatches. -/
def dropLease (m : Manager) (lease : Lease) : Manager :=
  let m := if lease.state = .opening then m.releaseSessionOpeningLocked lease.capacityClass lease.sessionKey else m
  { m with
    stateByClass := bump m.stateByClass lease.capacityClass lease.state (-1)
    usedTotal := m.usedTotal - 1
    totalBySession := Table.decrement m.totalBySession lease.sessionKey
    usedPublic := if lease.capacityClass.isPublic then m.usedPublic - 1 else m.usedPublic
    usedPooled := if lease.capacityClass = .publicPooled then m.usedPooled - 1 else m.usedPooled
    usedControl := if lease.capacityClass = .trustedHealth then m.usedControl - 1 else m.usedControl
    publicBySession := if lease.capacityClass.isPublic then Table.decrement m.publicBySession lease.sessionKey
      else m.publicBySession
    activeLeases := m.activeLeases.erase lease.id
    releasedCount := m.releasedCount + 1 }

def release (err : Nat → Waiter → Bool) (m : Manager) (id : Nat) : Manager × Bool × List Event :=
  match m.activeLeases.lookup id with
  | some lease =>
    let (left,events) := dispatchLocked err (m.dropLease lease)
    (left,true,events)
  | none => (m,false,[])

def registeredManager (m : Manager) (sessionKey : String) (limit : Int) : Manager := { m with
    registeredSessions := m.registeredSessions.insert sessionKey ()
    sessionLimits := m.sessionLimits.insert sessionKey (min (max 1 limit) m.config.totalStreams) }

def unregisteredManager (m : Manager) (sessionKey : String) : Manager := { m with
    registeredSessions := m.registeredSessions.erase sessionKey
    sessionLimits := m.sessionLimits.erase sessionKey }

def registerSessionWithLimit (err : Nat → Waiter → Bool) (m : Manager) (sessionKey : String) (limit : Int) :
    Manager × List Event :=
  if sessionKey = "" then (m,[])
  else dispatchLocked err (registeredManager m sessionKey limit)

def unregisterSession (err : Nat → Waiter → Bool) (m : Manager) (sessionKey : String) : Manager × List Event :=
  if sessionKey = "" then (m,[])
  else dispatchLocked err (unregisteredManager m sessionKey)

def unusedProtectedControl (m : Manager) : Int := max 0 (m.adaptiveProtectedControlLocked - m.usedControl)

/-- The external ledger after a reservation. -/
def reservedManager (m : Manager) (r : Reservation) : Manager := { m with
    adaptiveExternalBytes := saturatingAddInt64 m.adaptiveExternalBytes r.memoryBytes
    adaptiveExternalFDs := saturatingAddInt64 m.adaptiveExternalFDs r.fileDescriptors
    adaptiveExternalBytesByOwner := setOwner m.adaptiveExternalBytesByOwner r.owner
      (saturatingAddInt64 (m.adaptiveExternalBytesByOwner r.owner) r.memoryBytes)
    adaptiveExternalFDsByOwner := setOwner m.adaptiveExternalFDsByOwner r.owner
      (saturatingAddInt64 (m.adaptiveExternalFDsByOwner r.owner) r.fileDescriptors)
    adaptiveExternalReservationsByOwner := setOwner m.adaptiveExternalReservationsByOwner r.owner
      (saturatingAddInt64 (m.adaptiveExternalReservationsByOwner r.owner) 1)
    legacyStreamSupplementBytes := if r.legacyStreamSupplement then
      saturatingAddInt64 m.legacyStreamSupplementBytes r.memoryBytes else m.legacyStreamSupplementBytes }

/-- The external ledger after a reservation's release function, before it dispatches. -/
def unreservedManager (m : Manager) (r : Reservation) : Manager := { m with
    adaptiveExternalBytes := max 0 (m.adaptiveExternalBytes - r.memoryBytes)
    adaptiveExternalFDs := max 0 (m.adaptiveExternalFDs - r.fileDescriptors)
    adaptiveExternalBytesByOwner := setOwner m.adaptiveExternalBytesByOwner r.owner
      (max 0 (m.adaptiveExternalBytesByOwner r.owner - r.memoryBytes))
    adaptiveExternalFDsByOwner := setOwner m.adaptiveExternalFDsByOwner r.owner
      (max 0 (m.adaptiveExternalFDsByOwner r.owner - r.fileDescriptors))
    adaptiveExternalReservationsByOwner := setOwner m.adaptiveExternalReservationsByOwner r.owner
      (max 0 (m.adaptiveExternalReservationsByOwner r.owner - 1))
    legacyStreamSupplementBytes := max 0 (if r.legacyStreamSupplement then
      m.legacyStreamSupplementBytes - r.memoryBytes else m.legacyStreamSupplementBytes) }

def tryReserveAdaptiveResourceMode (m : Manager) (r : Reservation) : Manager × ReserveResult × List Event :=
  if m.adaptiveMemory.isNone then (m,.unconstrained,[])
  else if r.memoryBytes < 0 ∨ r.fileDescriptors < 0 ∨ m.resourceSnapshot.rejectNew ∨
      ¬ m.resourceSnapshot.usage.valid ∨ m.resourceSnapshot.streamChargeByte ≤ 0 then (m,.refused,[])
  else
    let proposedBytes := saturatingAddInt64 m.adaptiveExternalBytes r.memoryBytes
    let proposedFDs := saturatingAddInt64 m.adaptiveExternalFDs r.fileDescriptors
    if m.resourceSnapshot.admissionLimitWithExternal proposedBytes proposedFDs <
        m.usedTotal + m.unusedProtectedControl then (m,.refused,[])
    else
      let left := reservedManager m r
      (left,.reserved,[.reserve m left])

/-- The function a successful reservation returns; `sync.Once` runs it at most once. -/
def releaseReservation (err : Nat → Waiter → Bool) (m : Manager) (r : Reservation) : Manager × List Event :=
  dispatchLocked err (unreservedManager m r)

/-- The locked part of `enableAdaptiveMemory`: a replacement fails closed until
its first sample is published. -/
def enableAdaptiveMemory (m : Manager) (controller : Nat) : Manager :=
  if m.adaptiveMemory = some controller then m
  else { m with
    adaptiveMemory := some controller
    resourceSnapshot := { rejectNew := true }
    adaptiveSampling := 0 }

/-- The first critical section of `refreshAdaptiveCapacity`; `checked` and `now`
are its two clock readings. No refresh is returned when the published sample is
still fresh or no controller is enabled. -/
def refreshStart (m : Manager) (force : Bool) (checked now : Int) : Manager × Option Refresh :=
  match m.adaptiveMemory with
  | none => (m,none)
  | some controller =>
    let current := m.resourceSnapshot
    if !force ∧ current.sampledAt.isSome ∧ before checked current.nextSampleAt then (m,none)
    else
      let sampling := force || current.nextSampleAt.isNone || !before now current.nextSampleAt
      ({ m with adaptiveSampling := if sampling then m.adaptiveSampling + 1 else m.adaptiveSampling },
        some ⟨controller,force,sampling,maxAdaptiveConcurrentStreamsLimit,m.usedTotal,none⟩)

/-- What publication does to the limits of a snapshot: the sampled in-use count
is not turned into spendable credit. -/
def publishedSnapshot (m : Manager) (next : Snapshot) : Snapshot :=
  let clamped := if next.usage.valid ∧ next.streamChargeByte > 0 ∧ ¬ next.rejectNew then
      let memoryLimit := min next.memoryAdmissionLimit
        (min (next.headroomToHardByte / next.streamChargeByte) maxInt64)
      let fdLimit := if next.fdLimit > 0 ∧ next.streamChargeFD > 0 then
        min next.fdAdmissionLimit (min (next.fdHeadroomToHard / next.streamChargeFD) maxInt64)
        else next.fdAdmissionLimit
      { next with
        memoryAdmissionLimit := memoryLimit
        fdAdmissionLimit := fdLimit
        admissionLimit := min next.admissionLimit (min memoryLimit fdLimit) }
    else next
  { clamped with
    reservedStreamByte := saturatingMultiply m.usedTotal next.streamChargeByte
    reservedStreamFD := saturatingMultiply m.usedTotal next.streamChargeFD }

/-- The manager that the second half of a refresh hands to its dispatch. -/
def publishedManager (m : Manager) (r : Refresh) (next : Snapshot) : Manager :=
  let m := if r.sampling then { m with adaptiveSampling := m.adaptiveSampling - 1 } else m
  if next.generation ≥ m.resourceSnapshot.generation then { m with resourceSnapshot := m.publishedSnapshot next } else m

/-- The second critical section of `refreshAdaptiveCapacity`. A sampler of a
replaced controller leaves everything as it is. -/
def refreshFinish (err : Nat → Waiter → Bool) (m : Manager) (r : Refresh) (next : Snapshot) : Manager × List Event :=
  if m.adaptiveMemory ≠ some r.controller then (m,[])
  else dispatchLocked err (publishedManager m r next)

end Manager

end P2pstream.Kernel.StreamCapacity
