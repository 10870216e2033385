import P2pstream.Kernel.AdaptiveMemory
import P2pstream.Library.Tables
import P2pstream.Library.Transitions

/-! The agent's admission ledger, `agentTunnelCapacityRuntime` of `internal/agent/adaptive_capacity.go`,
with the leases its callers hold. A section under the runtime's mutex is one step; a release
function runs its section once, which its lease remembers.
-/
namespace P2pstream.Kernel.AgentCapacity
open Library Kernel.AdaptiveMemory

def maxAdaptiveConcurrentStreamsLimit : Int := 65536
def negotiatedControlStreamLimit : Int := 4

/-- `agentReceiveResourceOwner`. -/
inductive Owner where
  | streamGrowth | aggregateInitialPool | aggregateGrowthPool | aggregateSessionMetadata
  | legacyControlSupplement | legacySessionEnvelope | legacyStreamSupplement
  deriving DecidableEq

structure Runtime where
  adaptive : Bool
  maximum : Int
  inUse : Int := 0
  controlInUse : Int := 0
  controlReservedSlots : Int := 0
  windowBytes : Int := 0
  sessionBytes : Int := 0
  aggregateInitialPoolBytes : Int := 0
  aggregateGrowthPoolBytes : Int := 0
  aggregateSessionMetadataBytes : Int := 0
  legacyControlSupplementBytes : Int := 0
  legacySessionEnvelopeBytes : Int := 0
  legacyStreamSupplementBytes : Int := 0
  controller : Option Controller
  rejectedPressure : Nat := 0
  rejectedFixed : Nat := 0
  scavengeNeeded : Bool := false

/-- `agentTunnelCapacitySnapshot`; the fields that are copied from the controller's snapshot are
read from `resource`, the byte categories from the runtime. -/
structure CapacitySnapshot where
  adaptive : Bool
  resourceLimited : Bool := false
  maximum : Int
  admissionLimit : Int
  ordinaryAdmissionLimit : Int
  inUse : Int
  controlInUse : Int
  controlReservedSlots : Int
  controlReservedBaseBytes : Int := 0
  controlReservedBaseFDs : Int := 0
  pressure : Level := .unknown
  resource : Option Snapshot := none
  rejectedPressure : Nat
  rejectedFixedLimit : Nat

def agentTunnelCapacityMaximumInt (maximum : Int) : Int :=
  if maximum < 1 then 1 else min maximum maxAdaptiveConcurrentStreamsLimit

/-- `DefaultAdaptiveMemoryConfig`. -/
def defaultAdaptiveMemoryConfig : Config where
  softLimitPercent := 80
  hardLimitPercent := 90
  recoveryPercent := 75
  sampleInterval := 100000000
  estimatedBytesPerAdmission := 512 * 1024 + 768 * 1024
  admissionRole := .agentStream
  fileDescriptorsPerAdmission := 2
  maxSampleStaleness := 1000000000

namespace Runtime

/-- `newAgentTunnelCapacityRuntime`; `fdSampler` says whether the host measures descriptors. -/
def new (maximum : Int) (adaptive : Bool) (controller : Option Controller) (fdSampler : Bool) : Runtime where
  adaptive
  maximum := agentTunnelCapacityMaximumInt maximum
  controller :=
    if adaptive ∧ controller.isNone then some { config := defaultAdaptiveMemoryConfig, accepted := rfl, fdSampler }
    else controller

def setMaximum (r : Runtime) (maximum : Int) : Runtime :=
  if maximum < 1 then r else { r with maximum := agentTunnelCapacityMaximumInt maximum }

def actualInUse (r : Runtime) : Int := r.inUse + r.controlInUse

def chargedAdmissions (r : Runtime) : Int := r.inUse + r.controlReservedSlots

/-- The controller's `Snapshot` or `ForceRefresh` for the present charge. -/
def sample (r : Runtime) (input : Sample) (force : Bool) : Runtime × Option Snapshot :=
  match r.controller with
  | none => (r,none)
  | some controller =>
    let (controller,snapshot) :=
      controller.snapshotAt input maxAdaptiveConcurrentStreamsLimit r.chargedAdmissions force
    ({ r with controller := some controller },some snapshot)

/-- Ordinary streams a snapshot allows. Existing ones are retained under pressure, but no
unreserved work may enter. -/
def ordinaryResourceLimit (r : Runtime) (resource : Snapshot) : Int :=
  if resource.rejectNew then r.inUse
  else max 0 (resource.admissionLimitWithExternal (r.windowBytes + r.sessionBytes) 0 - r.controlReservedSlots)

def reservedBase (slots charge : Int) : Int := if 0 < charge ∧ slots ≤ maxInt64 / charge then slots * charge else 0

def snapshotLockedWithForce (r : Runtime) (input : Sample) (force : Bool) : Runtime × CapacitySnapshot :=
  let maximum := max 1 r.maximum
  let snapshot : CapacitySnapshot := {
    adaptive := r.adaptive
    maximum
    admissionLimit := maximum
    ordinaryAdmissionLimit := max 0 (maximum - r.controlInUse)
    inUse := r.actualInUse
    controlInUse := r.controlInUse
    controlReservedSlots := r.controlReservedSlots
    rejectedPressure := r.rejectedPressure
    rejectedFixedLimit := r.rejectedFixed }
  match r.sample input force with
  | (r,none) => (r,snapshot)
  | (r,some resource) =>
    let ordinary := r.ordinaryResourceLimit resource
    let controlCapacity := min r.controlReservedSlots (min negotiatedControlStreamLimit maximum)
    let admissionLimit := if ordinary > maxInt64 - controlCapacity then maximum else min maximum (ordinary + controlCapacity)
    (r,{ snapshot with
      ordinaryAdmissionLimit := min ordinary (max 0 (maximum - r.controlInUse))
      admissionLimit
      resourceLimited := resource.rejectNew || admissionLimit < maximum
      pressure := resource.level
      resource := some resource
      controlReservedBaseBytes := reservedBase r.controlReservedSlots resource.streamChargeByte
      controlReservedBaseFDs := reservedBase r.controlReservedSlots resource.streamChargeFD })

/-- The switch of `tryReserveOwnedReceiveResource`; its release subtracts what this adds. -/
def charge (r : Runtime) (owner : Owner) (bytes : Int) : Runtime :=
  match owner with
  | .streamGrowth => { r with windowBytes := r.windowBytes + bytes }
  | .aggregateInitialPool =>
    { r with
      sessionBytes := r.sessionBytes + bytes
      aggregateInitialPoolBytes := r.aggregateInitialPoolBytes + bytes }
  | .aggregateGrowthPool =>
    { r with
      sessionBytes := r.sessionBytes + bytes
      aggregateGrowthPoolBytes := r.aggregateGrowthPoolBytes + bytes }
  | .aggregateSessionMetadata =>
    { r with
      sessionBytes := r.sessionBytes + bytes
      aggregateSessionMetadataBytes := r.aggregateSessionMetadataBytes + bytes }
  | .legacyControlSupplement =>
    { r with
      sessionBytes := r.sessionBytes + bytes
      legacyControlSupplementBytes := r.legacyControlSupplementBytes + bytes }
  | .legacySessionEnvelope =>
    { r with
      sessionBytes := r.sessionBytes + bytes
      legacySessionEnvelopeBytes := r.legacySessionEnvelopeBytes + bytes }
  | .legacyStreamSupplement =>
    { r with
      windowBytes := r.windowBytes + bytes
      legacyStreamSupplementBytes := r.legacyStreamSupplementBytes + bytes }

/-- The bytes of all receive owners after a reservation, unless they leave the `int64` range. -/
def proposedExternal (r : Runtime) (bytes : Int) : Option Int :=
  if bytes < 0 ∨ r.windowBytes < 0 ∨ r.sessionBytes < 0 ∨ r.windowBytes > maxInt64 - r.sessionBytes then none
  else if bytes > maxInt64 - (r.windowBytes + r.sessionBytes) then none
  else some (r.windowBytes + r.sessionBytes + bytes)

/-- `tryReserveOwnedReceiveResource` with a controller. It samples before it checks the amount. -/
def tryReserveOwnedReceiveResource (r : Runtime) (input : Sample) (bytes : Int) (owner : Owner) :
    Runtime × Option Snapshot × Bool :=
  match r.sample input false with
  | (r,none) => (r,none,true)
  | (r,some resource) =>
    match r.proposedExternal bytes with
    | none => (r,some resource,false)
    | some proposed =>
      if resource.rejectNew ∨ resource.admissionLimitWithExternal proposed 0 < r.chargedAdmissions then
        (r,some resource,false)
      else (r.charge owner bytes,some resource,true)

/-- `tryReserveControlSession`: current ownership is sampled, and the whole promise compared with
its allowance. -/
def tryReserveControlSession (r : Runtime) (input : Sample) (bytes slots : Int) : Runtime × Option Snapshot × Bool :=
  if bytes < 0 ∨ slots < 1 ∨ slots > negotiatedControlStreamLimit then (r,none,false)
  else match r.proposedExternal bytes with
    | none => (r,none,false)
    | some proposedExternal =>
      let proposedCharged := r.chargedAdmissions + slots
      if r.controlReservedSlots > maxInt64 - slots ∨ proposedCharged > maxAdaptiveConcurrentStreamsLimit then
        (r,none,false)
      else
        let (r,resource) := r.sample input false
        if resource.any fun resource =>
            resource.rejectNew || resource.admissionLimitWithExternal proposedExternal 0 < proposedCharged then
          (r,resource,false)
        else
          ({ r with
            sessionBytes := r.sessionBytes + bytes
            legacyControlSupplementBytes := r.legacyControlSupplementBytes + bytes
            controlReservedSlots := r.controlReservedSlots + slots },resource,true)

def tryAcquire (r : Runtime) (input : Sample) : Runtime × CapacitySnapshot × Bool :=
  let (r,snapshot) := r.snapshotLockedWithForce input false
  if r.maximum ≤ r.actualInUse ∨ snapshot.ordinaryAdmissionLimit ≤ r.inUse then
    let r := if snapshot.adaptive || snapshot.resourceLimited then
        { r with rejectedPressure := r.rejectedPressure + 1, scavengeNeeded := true }
      else { r with rejectedFixed := r.rejectedFixed + 1 }
    (r,{ snapshot with rejectedPressure := r.rejectedPressure, rejectedFixedLimit := r.rejectedFixed },false)
  else
    let r := { r with inUse := r.inUse + 1 }
    (r,{ snapshot with inUse := r.actualInUse },true)

/-- `finishActiveReleaseLocked`: only a complete drain of active work asks for a scavenging pass.
`signalled` is the flag after the swap, where others may store it without the mutex. -/
def finishActiveRelease (r : Runtime) (input : Sample) (signalled : Bool) : Runtime × Bool :=
  let shouldScavenge := r.scavengeNeeded
  let r := { r with scavengeNeeded := signalled }
  if r.controller.isSome ∧ r.actualInUse = 0 then
    let (r,snapshot) := r.snapshotLockedWithForce input false
    (r,shouldScavenge || snapshot.pressure = .soft || snapshot.pressure = .critical)
  else ({ r with scavengeNeeded := shouldScavenge || signalled },false)

def recordPressureRejection (r : Runtime) : Runtime :=
  { r with rejectedPressure := r.rejectedPressure + 1, scavengeNeeded := true }

end Runtime

/-- `agentControlSessionReservation`. -/
structure ControlSession where
  bytes : Int
  slots : Int
  active : Int := 0
  released : Bool := false
  deriving DecidableEq

namespace ControlSession

/-- `activate` keeps what the server negotiated and releases the rest of the offer. -/
def activate (s : ControlSession) (r : Runtime) (maximum bytes slots : Int) : Option (ControlSession × Runtime) :=
  if maximum < 1 ∨ bytes < 0 ∨ slots < 1 ∨ slots > negotiatedControlStreamLimit then none
  else if s.released ∨ s.active ≠ 0 ∨ slots > s.slots ∨ bytes > s.bytes then none
  else if slots > agentTunnelCapacityMaximumInt maximum then none
  else some ({ s with bytes, slots },{ r with
    sessionBytes := r.sessionBytes - (s.bytes - bytes)
    legacyControlSupplementBytes := r.legacyControlSupplementBytes - (s.bytes - bytes)
    controlReservedSlots := r.controlReservedSlots - (s.slots - slots)
    maximum := agentTunnelCapacityMaximumInt maximum })

/-- `tryAcquire` of a control session: its base is prepaid. -/
def tryAcquire (s : ControlSession) (r : Runtime) : ControlSession × Runtime × Bool :=
  if s.released ∨ s.slots ≤ s.active ∨ min negotiatedControlStreamLimit r.maximum ≤ r.controlInUse ∨
      r.maximum ≤ r.actualInUse then
    (s,{ r with rejectedFixed := r.rejectedFixed + 1 },false)
  else ({ s with active := s.active + 1 },{ r with controlInUse := r.controlInUse + 1 },true)

/-- `release` refuses while control streams are active. -/
def release (s : ControlSession) (r : Runtime) : Option (ControlSession × Runtime) :=
  if s.released ∨ s.active ≠ 0 then none
  else some ({ s with released := true },{ r with
    sessionBytes := r.sessionBytes - s.bytes
    legacyControlSupplementBytes := r.legacyControlSupplementBytes - s.bytes
    controlReservedSlots := r.controlReservedSlots - s.slots })

end ControlSession

/-- An ordinary stream; `done` once its release function has run. -/
structure StreamLease where
  done : Bool := false
  deriving DecidableEq

structure ControlLease where
  session : Nat
  done : Bool := false
  deriving DecidableEq

structure Charge where
  owner : Owner
  bytes : Int
  done : Bool := false
  deriving DecidableEq

/-- A call of `tryReserveAggregateSessionResource` between its sections and after them, with the
leases it took. -/
inductive Composite where
  | pooled (pool : Nat) (metadataBytes : Int)
  | undoing (pool : Nat)
  | failed (pool : Nat)
  | held (pool metadata : Nat)
  deriving DecidableEq

def Composite.unpublished : Composite → Option Nat
  | .pooled pool _ => some pool
  | .undoing pool => some pool
  | .failed _ => none
  | .held _ _ => none

structure System where
  runtime : Runtime
  streams : Table Nat StreamLease := ∅
  sessions : Table Nat ControlSession := ∅
  controls : Table Nat ControlLease := ∅
  charges : Table Nat Charge := ∅
  composites : Table Nat Composite := ∅
  nextLease : Nat := 0

/-- A successful reservation: the snapshot it consulted and the runtime it left. -/
inductive Event where
  | stream (resource : Option Snapshot) (left : Runtime)
  | session (resource : Option Snapshot) (left : Runtime)
  | receive (bytes : Int) (resource : Option Snapshot) (left : Runtime)

inductive Input where
  | setMaximum (maximum : Int)
  | snapshot (force : Bool) (sample : Sample)
  | acquire (sample : Sample)
  | release (stream : Nat) (sample : Sample) (signalled : Bool)
  | reserveSession (bytes slots : Int) (sample : Sample)
  | activate (session : Nat) (maximum bytes slots : Int)
  | acquireControl (session : Nat)
  | releaseControl (control : Nat) (sample : Sample) (signalled : Bool)
  | releaseSession (session : Nat)
  | reserve (owner : Owner) (bytes : Int) (sample : Sample)
  | releaseCharge (charge : Nat)
  | reserveAggregate (poolBytes metadataBytes : Int) (sample : Sample)
  | reserveMetadata (composite : Nat) (sample : Sample)
  | undoAggregate (composite : Nat)
  | recordPressureRejection
  | scavenged (needed : Bool)

namespace System

def initial (runtime : Runtime) : System := { runtime }

/-- The section of a reservation of receive resources; without a controller its release function
does nothing and nothing is charged. -/
def reserve (s : System) (owner : Owner) (bytes : Int) (sample : Sample) : System × Bool × List Event :=
  match s.runtime.tryReserveOwnedReceiveResource sample bytes owner with
  | (runtime,none,granted) => ({ s with runtime },granted,[])
  | (runtime,some _,false) => ({ s with runtime },false,[])
  | (runtime,some resource,true) =>
    ({ s with runtime, charges := s.charges.insert s.nextLease { owner, bytes }, nextLease := s.nextLease + 1 },true,
      [.receive bytes (some resource) runtime])

/-- The section of the release function of a charge, inside its `sync.Once`. -/
def releaseCharge (s : System) (lease : Nat) (charge : Charge) : System :=
  if charge.done then s
  else { s with
    runtime := s.runtime.charge charge.owner (-charge.bytes)
    charges := s.charges.insert lease { charge with done := true } }

/-- A release function is only known to others when its call has returned it. -/
def published (s : System) (lease : Nat) : Bool :=
  s.composites.entries.all fun entry => entry.2.unpublished ≠ some lease

def setComposite (s : System) (id : Nat) (composite : Composite) : System :=
  { s with composites := s.composites.insert id composite }

def releaseStream (s : System) (stream : Nat) (lease : StreamLease) (sample : Sample) (signalled : Bool) : System :=
  if lease.done then s
  else
    let runtime := { s.runtime with inUse := if s.runtime.inUse > 0 then s.runtime.inUse - 1 else s.runtime.inUse }
    { s with
      runtime := (runtime.finishActiveRelease sample signalled).1
      streams := s.streams.insert stream { done := true } }

def releaseControl (s : System) (control : Nat) (lease : ControlLease) (session : ControlSession) (sample : Sample)
    (signalled : Bool) : System :=
  if lease.done then s
  else
    let runtime := { s.runtime with
      controlInUse := if s.runtime.controlInUse > 0 then s.runtime.controlInUse - 1 else s.runtime.controlInUse }
    { s with
      runtime := (runtime.finishActiveRelease sample signalled).1
      sessions := s.sessions.insert lease.session
        { session with active := if session.active > 0 then session.active - 1 else session.active }
      controls := s.controls.insert control { lease with done := true } }

def step (s : System) : Input → Option (System × List Event)
  | .setMaximum maximum => some ({ s with runtime := s.runtime.setMaximum maximum },[])
  | .snapshot force sample => some ({ s with runtime := (s.runtime.snapshotLockedWithForce sample force).1 },[])
  | .acquire sample =>
    match s.runtime.tryAcquire sample with
    | (runtime,snapshot,true) =>
      some ({ s with runtime, streams := s.streams.insert s.nextLease {}, nextLease := s.nextLease + 1 },
        [.stream snapshot.resource runtime])
    | (runtime,_,false) => some ({ s with runtime },[])
  | .release stream sample signalled => do
    let lease ← s.streams.lookup stream
    pure (s.releaseStream stream lease sample signalled,[])
  | .reserveSession bytes slots sample =>
    match s.runtime.tryReserveControlSession sample bytes slots with
    | (runtime,resource,true) =>
      some ({ s with runtime, sessions := s.sessions.insert s.nextLease { bytes, slots }, nextLease := s.nextLease + 1 },
        [.session resource runtime])
    | (runtime,_,false) => some ({ s with runtime },[])
  | .activate id maximum bytes slots => do
    let session ← s.sessions.lookup id
    match session.activate s.runtime maximum bytes slots with
    | none => pure (s,[])
    | some (session,runtime) => pure ({ s with runtime, sessions := s.sessions.insert id session },[])
  | .acquireControl id => do
    let session ← s.sessions.lookup id
    match session.tryAcquire s.runtime with
    | (session,runtime,true) =>
      pure ({ s with
        runtime
        sessions := s.sessions.insert id session
        controls := s.controls.insert s.nextLease { session := id }
        nextLease := s.nextLease + 1 },[])
    | (_,runtime,false) => pure ({ s with runtime },[])
  | .releaseControl control sample signalled => do
    let lease ← s.controls.lookup control
    let session ← s.sessions.lookup lease.session
    pure (s.releaseControl control lease session sample signalled,[])
  | .releaseSession id => do
    let session ← s.sessions.lookup id
    match session.release s.runtime with
    | none => pure (s,[])
    | some (session,runtime) => pure ({ s with runtime, sessions := s.sessions.insert id session },[])
  | .reserve owner bytes sample =>
    let (next,_,events) := s.reserve owner bytes sample
    some (next,events)
  | .releaseCharge lease => do
    let charge ← s.charges.lookup lease
    guard (s.published lease)
    pure (s.releaseCharge lease charge,[])
  | .reserveAggregate poolBytes metadataBytes sample =>
    let (next,granted,events) := s.reserve .aggregateInitialPool poolBytes sample
    if granted ∧ s.runtime.controller.isSome then
      some ({ next.setComposite next.nextLease (.pooled s.nextLease metadataBytes) with
        nextLease := next.nextLease + 1 },events)
    else some (next,events)
  | .reserveMetadata id sample => do
    match ← s.composites.lookup id with
    | .pooled pool metadataBytes =>
      let (next,granted,events) := s.reserve .aggregateSessionMetadata metadataBytes sample
      pure (next.setComposite id (if granted then .held pool s.nextLease else .undoing pool),events)
    | _ => none
  | .undoAggregate id => do
    match ← s.composites.lookup id with
    | .undoing pool =>
      let charge ← s.charges.lookup pool
      pure ((s.releaseCharge pool charge).setComposite id (.failed pool),[])
    | _ => none
  | .recordPressureRejection => some ({ s with runtime := s.runtime.recordPressureRejection },[])
  -- The scavenging worker, and a release after its section, write the flag outside the mutex.
  | .scavenged needed => some ({ s with runtime := { s.runtime with scavengeNeeded := needed } },[])

end System

end P2pstream.Kernel.AgentCapacity
