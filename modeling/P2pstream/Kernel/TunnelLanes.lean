import P2pstream.Library.Tables
import P2pstream.Library.Transitions

/-! The lane owners of one tunnel generation, `internal/tunnel/lane_owners.go`, with the
growth leases of `growing_conn.go` that the owners hold. Every input is one section under
the registry's mutex or one call out of it, so runs over inputs are the interleavings of
concurrent calls. Owners and slots are named by the order of their creation, as pointers
are in the source; the endpoint's admission ledger answers each reservation.
-/
namespace P2pstream.Kernel.TunnelLanes
open Library

def aggregateWindowUnitSize : Int := 4 * 1024
def aggregateChunkAccounting : Int := 1024

/-- `yamux.AggregateReceiveWindowMemory`. -/
def aggregateReceiveWindowMemory (window : Int) : Int :=
  (window + aggregateWindowUnitSize - 1) / aggregateWindowUnitSize * (aggregateWindowUnitSize + aggregateChunkAccounting)

def maxParallelTunnels : Int := 32
def aggregateInitialSessionWindowBytes : Int := 2 * 1024 * 1024
def aggregateLanePoolLimit : Int := 16 * 1024 * 1024
def aggregateGenerationGrowthBytes : Int := 64 * 1024 * 1024

def laneLimit : Int :=
  aggregateReceiveWindowMemory aggregateLanePoolLimit - aggregateReceiveWindowMemory aggregateInitialSessionWindowBytes

inductive LaneOwnerState where
  | replacement | serving | draining
  deriving DecidableEq

structure Session where
  id : Nat
  aggregateFlowControlEnabled : Bool
  deriving DecidableEq

structure GrowthLease where
  slot : Nat
  bytes : Int
  reservation : Nat
  deriving DecidableEq

/-- `AggregateReceiveWindowGrowth`: the leases retained until `Release`. -/
structure Growth where
  closing : Bool := false
  releases : List GrowthLease := []
  deriving DecidableEq

/-- How far the one execution of an owner's `Close` has come. -/
inductive Closing where
  | no
  | fenced
  | joined
  | releasing (pending : List GrowthLease)
  | refunded (lease : GrowthLease) (pending : List GrowthLease)
  | removed (baseline : Option Nat)
  | done
  deriving DecidableEq

/-- `pinned` and `finishing` count the opens between `BeginOpen` and `FinishOpen`, and
those inside `FinishOpen`. -/
structure LaneOwner where
  lane : Int
  id : String
  state : LaneOwnerState := .replacement
  session : Option Session := none
  growth : Option Growth := none
  closed : Bool := false
  closing : Closing := .no
  openingCount : Int := 0
  pinned : Nat := 0
  finishing : Nat := 0
  activity : Nat := 0
  idleSince : Option Int := none
  application : List Nat := []
  deriving DecidableEq

structure LaneOwnerSlot where
  id : Nat
  owners : List Nat
  serving : Option Nat
  release : Nat
  growth : Int
  reserved : Int
  deriving DecidableEq

/-- A call of `PublishWhenIdle` or `IdleFor` between its sections. -/
inductive Call where
  | chosen (owner : Option Nat) (old : Nat) (quiet : Int)
  | observing (owner : Option Nat) (old : Nat) (quiet : Int) (epoch : Nat) (empty attached : Bool)
  | ready (owner : Nat) (expected : Option Nat) (epoch : Nat)
  deriving DecidableEq

/-- The registry with the owners it ever handed out and the calls in progress. -/
structure LaneOwners where
  closed : Bool
  lanes : Table Int LaneOwnerSlot
  growth : Int
  owners : Table Nat LaneOwner
  nextOwner : Nat
  nextSlot : Nat
  nextReservation : Nat
  calls : Table Nat Call
  nextCall : Nat

inductive Event where
  | reserved (reservation : Nat) (bytes : Int)
  | released (reservation : Nat)
  | published (owner : Nat)
  | observed (call : Nat) (owner : Nat)
  | replaced (call : Nat) (old owner : Nat)
  | began (owner : Nat)
  deriving DecidableEq

namespace LaneOwners

def initial : LaneOwners where
  closed := false
  lanes := ∅
  growth := 0
  owners := ∅
  nextOwner := 0
  nextSlot := 0
  nextReservation := 0
  calls := ∅
  nextCall := 0

def setOwner (g : LaneOwners) (owner : Nat) (o : LaneOwner) : LaneOwners := { g with owners := g.owners.insert owner o }

def setSlot (g : LaneOwners) (lane : Int) (slot : LaneOwnerSlot) : LaneOwners :=
  { g with lanes := g.lanes.insert lane slot }

def drainingPredecessor (g : LaneOwners) (replaces : String) (owner : Nat) : Bool :=
  match g.owners.lookup owner with
  | none => false
  | some old => old.state = .draining && old.id = replaces

/-- The checks of `Acquire` on the slot it found or made. -/
def mayJoin (g : LaneOwners) (slot : LaneOwnerSlot) (replaces : String) (reserved : Int) : Bool :=
  if slot.reserved ≠ reserved ∨ 2 ≤ slot.owners.length then false
  else match slot.serving with
    | some serving => replaces ≠ "" && (g.owners.lookup serving).any fun old => old.id = replaces
    | none => if slot.owners ≠ [] then slot.owners.any (g.drainingPredecessor replaces) else replaces = ""

def slotFor (g : LaneOwners) (lane : Int) (replaces : String) (reserved : Int) (admitted : Bool) :
    Option (LaneOwnerSlot × LaneOwners × List Event) :=
  match g.lanes.lookup lane with
  | some slot => some (slot,g,[])
  | none =>
    if replaces ≠ "" ∨ ¬ admitted then none
    else
      let slot := { id := g.nextSlot, owners := [], serving := none, release := g.nextReservation, growth := 0, reserved }
      some (slot,{ g.setSlot lane slot with nextSlot := g.nextSlot + 1, nextReservation := g.nextReservation + 1 },
        [.reserved g.nextReservation reserved])

def acquire (g : LaneOwners) (lane : Int) (id replaces : String) (reserved : Int) (admitted : Bool) :
    Option Nat × LaneOwners × List Event :=
  if lane < 0 ∨ maxParallelTunnels < lane ∨ id = "" ∨ reserved < 0 ∨ g.closed then (none,g,[])
  else match g.slotFor lane replaces reserved admitted with
    | none => (none,g,[])
    | some (slot,prepaid,events) =>
      if prepaid.mayJoin slot replaces reserved then
        let joined := prepaid.setSlot lane { slot with owners := prepaid.nextOwner :: slot.owners }
        (some prepaid.nextOwner,{ joined.setOwner prepaid.nextOwner { lane, id } with nextOwner := prepaid.nextOwner + 1 },
          events)
      else (none,prepaid,events)

def attach (g : LaneOwners) (owner : Nat) (o : LaneOwner) (s : Session) : LaneOwners :=
  if g.closed ∨ o.closed ∨ o.session.isSome then g
  else g.setOwner owner { o with
    session := some s, growth := if s.aggregateFlowControlEnabled then some {} else none }

/-- The reservation of `Attach`, called by `Grow` while it holds the owner's growth. -/
def grow (g : LaneOwners) (owner : Nat) (o : LaneOwner) (growth : Growth) (bytes : Int) (admitted : Bool) :
    LaneOwners × List Event :=
  match g.lanes.lookup o.lane with
  | none => (g,[])
  | some slot =>
    if growth.closing ∨ g.closed ∨ o.closed ∨ o.state = .draining ∨ bytes < 0 ∨ laneLimit - slot.growth < bytes ∨
        aggregateGenerationGrowthBytes - g.growth < bytes ∨ ¬ admitted then (g,[])
    else
      let lease := { slot := slot.id, bytes, reservation := g.nextReservation }
      let charged := g.setSlot o.lane { slot with growth := slot.growth + bytes }
      ({ charged.setOwner owner { o with growth := some { growth with releases := growth.releases ++ [lease] } } with
          growth := g.growth + bytes, nextReservation := g.nextReservation + 1 },
        [.reserved g.nextReservation bytes])

def unchanged (g : LaneOwners) (old : Option Nat) (epoch : Nat) : Bool :=
  match old.bind g.owners.lookup with
  | none => true
  | some o => o.activity = epoch && o.openingCount = 0 && o.application = []

def retire (g : LaneOwners) (old : Option Nat) : LaneOwners :=
  match old with
  | none => g
  | some owner =>
    match g.owners.lookup owner with
    | none => g
    | some o => g.setOwner owner { o with state := .draining }

/-- The owner replaced and the registry; `none` if the publication is refused. -/
def publish (g : LaneOwners) (owner : Nat) (expected : Option Nat) (epoch : Nat) (idleOnly : Bool) :
    Option (Option Nat × LaneOwners) := do
  let o ← g.owners.lookup owner
  guard (¬ g.closed ∧ ¬ o.closed ∧ o.session.isSome)
  let slot ← g.lanes.lookup o.lane
  guard (idleOnly → slot.serving = expected ∧ g.unchanged slot.serving epoch)
  if slot.serving = some owner then pure (none,g)
  else
    let retired := g.retire slot.serving
    pure (slot.serving,
      (retired.setSlot o.lane { slot with serving := some owner }).setOwner owner { o with state := .serving })

/-- The first section of `PublishWhenIdle`: the owner now serving, if there is one. -/
def choose (g : LaneOwners) (owner : Nat) (quiet : Int) : Option Call := do
  let o ← g.owners.lookup owner
  guard (¬ g.closed ∧ ¬ o.closed)
  let slot ← g.lanes.lookup o.lane
  match slot.serving with
  | none => pure (.ready owner none 0)
  | some old => pure (.chosen (some owner) old quiet)

def observation (g : LaneOwners) (o : LaneOwner) (owner : Option Nat) (old : Nat) (quiet : Int) : Call :=
  .observing owner old quiet o.activity (¬ g.closed ∧ ¬ o.closed ∧ o.openingCount = 0 ∧ o.application = [])
    o.session.isSome

/-- The second section; `drained` is the session's own answer. -/
def conclude (g : LaneOwners) (o : LaneOwner) (quiet : Int) (epoch : Nat) (empty attached drained : Bool) (now : Int) :
    LaneOwner × Bool :=
  if ¬ (empty ∧ attached ∧ drained) ∨ o.activity ≠ epoch ∨ g.closed ∨ o.closed then
    ({ o with activity := if o.idleSince.isSome then o.activity + 1 else o.activity, idleSince := none },false)
  else
    let since := o.idleSince.getD now
    ({ o with idleSince := some since },quiet ≤ now - since)

def beginOpen (g : LaneOwners) (o : LaneOwner) : Option LaneOwner :=
  if o.closed ∨ g.closed ∨ o.state ≠ .serving then none
  else some { o with
    activity := o.activity + 1, idleSince := none, openingCount := o.openingCount + 1, pinned := o.pinned + 1 }

/-- `FinishOpen` up to its deferred part: a stream that was opened is registered. -/
def finishOpen (g : LaneOwners) (o : LaneOwner) (stream : Option Nat) : LaneOwner :=
  let finishing := { o with pinned := o.pinned - 1, finishing := o.finishing + 1 }
  match stream with
  | none => finishing
  | some s => if o.closed ∨ g.closed then finishing else { finishing with application := s :: o.application.erase s }

/-- The deferred part of `FinishOpen`. -/
def openFinished (o : LaneOwner) : LaneOwner :=
  { o with openingCount := o.openingCount - 1, finishing := o.finishing - 1, activity := o.activity + 1, idleSince := none }

def endStream (o : LaneOwner) (stream : Nat) : LaneOwner :=
  { o with application := o.application.erase stream, activity := o.activity + 1, idleSince := none }

/-- Whether an opening fence has pre-publication opens to join; `none` if it is refused. -/
def acknowledgeOpeningFence (o : LaneOwner) : Option Bool := do
  guard (o.state = .draining ∧ o.session.isSome)
  pure (o.openingCount ≠ 0)

def settle (g : LaneOwners) (owner : Nat) (o : LaneOwner) (lease : GrowthLease) (pending : List GrowthLease) : LaneOwners :=
  let left := { g.setOwner owner { o with closing := .releasing pending } with growth := g.growth - lease.bytes }
  match g.lanes.lookup o.lane with
  | none => left
  -- A slot that left the registry is no longer seen by anyone.
  | some slot => if slot.id = lease.slot then left.setSlot o.lane { slot with growth := slot.growth - lease.bytes } else left

/-- The last section of `Close`: an empty lane returns its headroom. -/
def remove (g : LaneOwners) (owner : Nat) (o : LaneOwner) : LaneOwners :=
  match g.lanes.lookup o.lane with
  | none => g
  | some slot =>
    let owners := slot.owners.erase owner
    let serving := if slot.serving = some owner then none else slot.serving
    if owners = [] then
      { g.setOwner owner { o with closing := .removed (some slot.release) } with lanes := g.lanes.erase o.lane }
    else (g.setSlot o.lane { slot with owners, serving }).setOwner owner { o with closing := .removed none }

/-- One step of the running `Close`; `none` while it waits for opens. -/
def closeStep (g : LaneOwners) (owner : Nat) (o : LaneOwner) : Option (LaneOwners × List Event) :=
  match o.closing with
  | .no => some (g.setOwner owner { o with closed := true, closing := .fenced },[])
  | .fenced =>
    if o.openingCount = 0 then some (g.setOwner owner { o with application := [], closing := .joined },[]) else none
  | .joined =>
    let pending := (o.growth.map Growth.releases).getD []
    some (g.setOwner owner { o with growth := o.growth.map fun _ => { closing := true }, closing := .releasing pending },[])
  | .releasing (lease :: pending) =>
    some (g.setOwner owner { o with closing := .refunded lease pending },[.released lease.reservation])
  | .releasing [] => some (g.remove owner o,[])
  | .refunded lease pending => some (g.settle owner o lease pending,[])
  | .removed baseline =>
    some (g.setOwner owner { o with closing := .done },(baseline.map Event.released).toList)
  | .done => none

end LaneOwners

inductive Input where
  | acquire (lane : Int) (id replaces : String) (reserved : Int) (admitted : Bool)
  | attach (owner : Nat) (session : Session)
  | grow (owner : Nat) (bytes : Int) (admitted : Bool)
  | publish (owner : Nat)
  | publishWhenIdle (owner : Nat) (quiet : Int)
  | idleFor (owner : Nat) (quiet : Int)
  | observe (call : Nat)
  | conclude (call : Nat) (drained : Bool) (now : Int)
  | publishIdle (call : Nat)
  | beginOpen (owner : Nat)
  | finishOpen (owner : Nat) (stream : Option Nat)
  | openFinished (owner : Nat)
  | endStream (owner : Nat) (stream : Nat)
  | acknowledgeOpeningFence (owner : Nat)
  | closeOwner (owner : Nat)
  | close

namespace LaneOwners

def start (g : LaneOwners) (call : Call) : LaneOwners :=
  { g with calls := g.calls.insert g.nextCall call, nextCall := g.nextCall + 1 }

def finish (g : LaneOwners) (call : Nat) : LaneOwners := { g with calls := g.calls.erase call }

def publishedEvents (call : Option Nat) (old : Option Nat) (owner : Nat) : List Event :=
  match call,old with
  | some call,some old => [.replaced call old owner,.published owner]
  | _,_ => [.published owner]

def step (g : LaneOwners) : Input → Option (LaneOwners × List Event)
  | .acquire lane id replaces reserved admitted => some (g.acquire lane id replaces reserved admitted).2
  | .attach owner session => (g.owners.lookup owner).map fun o => (g.attach owner o session,[])
  | .grow owner bytes admitted => do
    let o ← g.owners.lookup owner
    let growth ← o.growth
    pure (g.grow owner o growth bytes admitted)
  | .publish owner =>
    match g.publish owner none 0 false with
    | none => some (g,[])
    | some (old,next) => some (next,publishedEvents none old owner)
  | .publishWhenIdle owner quiet =>
    match g.choose owner quiet with
    | none => some (g,[])
    | some call => some (g.start call,[])
  | .idleFor owner quiet => (g.owners.lookup owner).map fun _ => (g.start (.chosen none owner quiet),[])
  | .observe call => do
    let .chosen owner old quiet ← g.calls.lookup call | none
    let o ← g.owners.lookup old
    pure ({ g with calls := g.calls.insert call (g.observation o owner old quiet) },[.observed call old])
  | .conclude call drained now => do
    let .observing owner old quiet epoch empty attached ← g.calls.lookup call | none
    let o ← g.owners.lookup old
    let (seen,idle) := g.conclude o quiet epoch empty attached drained now
    let g := g.setOwner old seen
    match owner,idle with
    | some owner,true => pure ({ g with calls := g.calls.insert call (.ready owner (some old) epoch) },[])
    | _,_ => pure (g.finish call,[])
  | .publishIdle call => do
    let .ready owner expected epoch ← g.calls.lookup call | none
    match g.publish owner expected epoch true with
    | none => pure (g.finish call,[])
    | some (old,next) => pure (next.finish call,publishedEvents (some call) old owner)
  | .beginOpen owner => do
    let o ← g.owners.lookup owner
    match g.beginOpen o with
    | none => pure (g,[])
    | some begun => pure (g.setOwner owner begun,[.began owner])
  | .finishOpen owner stream => do
    let o ← g.owners.lookup owner
    guard (0 < o.pinned)
    pure (g.setOwner owner (g.finishOpen o stream),[])
  | .openFinished owner => do
    let o ← g.owners.lookup owner
    guard (0 < o.finishing)
    pure (g.setOwner owner (openFinished o),[])
  | .endStream owner stream => (g.owners.lookup owner).map fun o => (g.setOwner owner (endStream o stream),[])
  | .acknowledgeOpeningFence owner => do
    let o ← g.owners.lookup owner
    let _ ← acknowledgeOpeningFence o
    pure (g,[])
  | .closeOwner owner => do
    let o ← g.owners.lookup owner
    g.closeStep owner o
  | .close => some ({ g with closed := true },[])

end LaneOwners

end P2pstream.Kernel.TunnelLanes
