import P2pstream.Kernel.AgentCapacity

/-! The agent's ledger apart from how it is admitted to: what is held, what is booked for it, and
how one section may change the two together.
-/
namespace P2pstream.Semantics.AgentCapacity
open Library Kernel.AgentCapacity

inductive Account where
  | window | session | initialPool | growthPool | metadata | control | envelope | supplement
  deriving DecidableEq

def Account.takes : Account → Owner → Bool
  | .window,owner => owner = .streamGrowth ∨ owner = .legacyStreamSupplement
  | .session,owner => owner ≠ .streamGrowth ∧ owner ≠ .legacyStreamSupplement
  | .initialPool,owner => owner = .aggregateInitialPool
  | .growthPool,owner => owner = .aggregateGrowthPool
  | .metadata,owner => owner = .aggregateSessionMetadata
  | .control,owner => owner = .legacyControlSupplement
  | .envelope,owner => owner = .legacySessionEnvelope
  | .supplement,owner => owner = .legacyStreamSupplement

/-- The bytes of control sessions are booked with the legacy control supplements. -/
def Account.takesSessions : Account → Bool
  | .session => true
  | .control => true
  | _ => false

def booked (r : Runtime) : Account → Int
  | .window => r.windowBytes
  | .session => r.sessionBytes
  | .initialPool => r.aggregateInitialPoolBytes
  | .growthPool => r.aggregateGrowthPoolBytes
  | .metadata => r.aggregateSessionMetadataBytes
  | .control => r.legacyControlSupplementBytes
  | .envelope => r.legacySessionEnvelopeBytes
  | .supplement => r.legacyStreamSupplementBytes

structure Holdings where
  inUse : Int
  controlInUse : Int
  controlReservedSlots : Int
  booked : Account → Int
  streams : Table Nat StreamLease
  sessions : Table Nat ControlSession
  controls : Table Nat ControlLease
  charges : Table Nat Charge
  nextLease : Nat

def holdings (s : System) : Holdings where
  inUse := s.runtime.inUse
  controlInUse := s.runtime.controlInUse
  controlReservedSlots := s.runtime.controlReservedSlots
  booked := booked s.runtime
  streams := s.streams
  sessions := s.sessions
  controls := s.controls
  charges := s.charges
  nextLease := s.nextLease

def alive (released : Bool) (amount : Int) : Int := if released then 0 else amount

def heldStreams (streams : Table Nat StreamLease) : Int := Table.total (fun lease => alive lease.done 1) streams

def heldControls (controls : Table Nat ControlLease) : Int := Table.total (fun lease => alive lease.done 1) controls

def heldControlsOf (id : Nat) (controls : Table Nat ControlLease) : Int :=
  Table.total (fun lease => alive (lease.done || lease.session != id) 1) controls

def heldSlots (sessions : Table Nat ControlSession) : Int :=
  Table.total (fun session => alive session.released session.slots) sessions

def heldSessionBytes (sessions : Table Nat ControlSession) : Int :=
  Table.total (fun session => alive session.released session.bytes) sessions

def heldCharges (account : Account) (charges : Table Nat Charge) : Int :=
  Table.total (fun charge => alive (charge.done || !account.takes charge.owner) charge.bytes) charges

structure Conserved (h : Holdings) : Prop where
  inUse : h.inUse = heldStreams h.streams
  controlInUse : h.controlInUse = heldControls h.controls
  controlReservedSlots : h.controlReservedSlots = heldSlots h.sessions
  booked : ∀ account, h.booked account =
    heldCharges account h.charges + if account.takesSessions then heldSessionBytes h.sessions else 0

structure Numbered (h : Holdings) (bound : Nat) : Prop where
  charges : ∀ id charge, h.charges.lookup id = some charge → id < bound
  streams : ∀ id lease, h.streams.lookup id = some lease → id < bound
  controls : ∀ id lease, h.controls.lookup id = some lease → id < bound ∧ lease.session < bound
  sessions : ∀ id session, h.sessions.lookup id = some session → id < bound

/-- The leases are well formed: amounts are not negative and a session knows its control streams. -/
structure WellFormed (h : Holdings) : Prop where
  numbered : Numbered h h.nextLease
  charges : ∀ id charge, h.charges.lookup id = some charge → 0 ≤ charge.bytes
  sessions : ∀ id session, h.sessions.lookup id = some session → 0 ≤ session.bytes ∧ 0 ≤ session.slots
  active : ∀ id session, h.sessions.lookup id = some session → session.active = heldControlsOf id h.controls
  idle : ∀ id session, h.sessions.lookup id = some session → session.released = true → session.active = 0

inductive Lease where
  | stream (id : Nat)
  | session (id : Nat)
  | control (id : Nat)
  | charge (id : Nat)
  deriving DecidableEq

def Gone (h : Holdings) : Lease → Prop
  | .stream id => ∃ lease, h.streams.lookup id = some lease ∧ lease.done = true
  | .session id => ∃ session, h.sessions.lookup id = some session ∧ session.released = true
  | .control id => ∃ lease, h.controls.lookup id = some lease ∧ lease.done = true
  | .charge id => ∃ charge, h.charges.lookup id = some charge ∧ charge.done = true

def Holdings.book (h : Holdings) (takes : Account → Bool) (bytes : Int) (account : Account) : Int :=
  h.booked account + if takes account then bytes else 0

/-- One section: at most one lease changes, and the counters change with it. -/
inductive Effect (h : Holdings) : Holdings → Prop where
  | quiet : Effect h h
  | acquire :
      Effect h { h with
        inUse := h.inUse + 1
        streams := h.streams.insert h.nextLease {}
        nextLease := h.nextLease + 1 }
  | release {id : Nat} {lease : StreamLease} (found : h.streams.lookup id = some lease) (held : lease.done = false) :
      Effect h { h with
        inUse := if h.inUse > 0 then h.inUse - 1 else h.inUse
        streams := h.streams.insert id { done := true } }
  | reserveSession {bytes slots : Int} (nonneg : 0 ≤ bytes) (some : 1 ≤ slots) :
      Effect h { h with
        controlReservedSlots := h.controlReservedSlots + slots
        booked := h.book Account.takesSessions bytes
        sessions := h.sessions.insert h.nextLease { bytes, slots }
        nextLease := h.nextLease + 1 }
  | activate {id session bytes slots} (found : h.sessions.lookup id = some session) (held : session.released = false)
      (nonneg : 0 ≤ bytes) (some : 1 ≤ slots) : Effect h { h with
        controlReservedSlots := h.controlReservedSlots - (session.slots - slots)
        booked := h.book Account.takesSessions (-(session.bytes - bytes))
        sessions := h.sessions.insert id { session with bytes, slots } }
  | acquireControl {id : Nat} {session : ControlSession} (found : h.sessions.lookup id = some session)
      (held : session.released = false) :
      Effect h { h with
        controlInUse := h.controlInUse + 1
        sessions := h.sessions.insert id { session with active := session.active + 1 }
        controls := h.controls.insert h.nextLease { session := id }
        nextLease := h.nextLease + 1 }
  | releaseControl {id lease session} (found : h.controls.lookup id = some lease) (held : lease.done = false)
      (owner : h.sessions.lookup lease.session = some session) : Effect h { h with
        controlInUse := if h.controlInUse > 0 then h.controlInUse - 1 else h.controlInUse
        sessions := h.sessions.insert lease.session
          { session with active := if session.active > 0 then session.active - 1 else session.active }
        controls := h.controls.insert id { lease with done := true } }
  | releaseSession {id session} (found : h.sessions.lookup id = some session) (held : session.released = false)
      (idle : session.active = 0) : Effect h { h with
        controlReservedSlots := h.controlReservedSlots - session.slots
        booked := h.book Account.takesSessions (-session.bytes)
        sessions := h.sessions.insert id { session with released := true } }
  | charge {owner : Owner} {bytes : Int} {nextLease : Nat} (nonneg : 0 ≤ bytes) (later : h.nextLease < nextLease) :
      Effect h { h with
        booked := h.book (fun account => account.takes owner) bytes
        charges := h.charges.insert h.nextLease { owner, bytes }
        nextLease }
  | discharge {id charge} (found : h.charges.lookup id = some charge) (held : charge.done = false) : Effect h { h with
        booked := h.book (fun account => account.takes charge.owner) (-charge.bytes)
        charges := h.charges.insert id { charge with done := true } }

end P2pstream.Semantics.AgentCapacity
