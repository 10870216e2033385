import P2pstream.Kernel.TunnelLanes

/-! What one step may do to the lane owners, up to the calls of `PublishWhenIdle` and
`IdleFor` that are in progress.
-/
namespace P2pstream.Semantics.TunnelLanes
open Library Kernel.TunnelLanes

structure Touches (o o' : LaneOwner) : Prop where
  lane : o'.lane = o.lane
  state : o'.state = o.state
  session : o'.session = o.session
  growth : o'.growth = o.growth
  closed : o'.closed = o.closed
  closing : o'.closing = o.closing
  activity : o.activity ≤ o'.activity
  opens : o.openingCount = o.pinned + o.finishing → o'.openingCount = o'.pinned + o'.finishing

def newSlot (g : LaneOwners) (reserved : Int) : LaneOwnerSlot :=
  { id := g.nextSlot, owners := [], serving := none, release := g.nextReservation, growth := 0, reserved }

def prepay (g : LaneOwners) (lane reserved : Int) : LaneOwners :=
  { g.setSlot lane (newSlot g reserved) with nextSlot := g.nextSlot + 1, nextReservation := g.nextReservation + 1 }

def enter (g : LaneOwners) (lane : Int) (slot : LaneOwnerSlot) (id : String) : LaneOwners :=
  { (g.setSlot lane { slot with owners := g.nextOwner :: slot.owners }).setOwner g.nextOwner { lane, id } with
    nextOwner := g.nextOwner + 1 }

def withSession (o : LaneOwner) (session : Session) : LaneOwner :=
  { o with session := some session, growth := if session.aggregateFlowControlEnabled then some {} else none }

def lend (o : LaneOwner) (growth : Growth) (lease : GrowthLease) : LaneOwner :=
  { o with growth := some { growth with releases := growth.releases ++ [lease] } }

def leave (o : LaneOwner) (baseline : Option Nat) : LaneOwner := { o with closing := .removed baseline }

def without (slot : LaneOwnerSlot) (owner : Nat) : LaneOwnerSlot :=
  { slot with
    owners := slot.owners.erase owner
    serving := if slot.serving = some owner then none else slot.serving }

def serve (g : LaneOwners) (owner : Nat) (o : LaneOwner) (slot : LaneOwnerSlot) : LaneOwners :=
  (g.setSlot o.lane { slot with serving := some owner }).setOwner owner { o with state := .serving }

inductive LaneStep (g : LaneOwners) : List Event → LaneOwners → Prop where
  | quiet : LaneStep g [] g
  | observe (call owner) : LaneStep g [.observed call owner] g
  | fence : LaneStep g [] { g with closed := true }
  | entered {lane slot} (found : g.lanes.lookup lane = some slot) (room : slot.owners.length < 2) (id) :
      LaneStep g [] (enter g lane slot id)
  | opened {lane} (absent : g.lanes.lookup lane = none) (id reserved) :
      LaneStep g [.reserved g.nextReservation reserved] (enter (prepay g lane reserved) lane (newSlot g reserved) id)
  | attached {owner o} (found : g.owners.lookup owner = some o) (free : o.session = none) (session) :
      LaneStep g [] (g.setOwner owner (withSession o session))
  | grown {owner : Nat} {o : LaneOwner} {slot : LaneOwnerSlot} {growth : Growth} {bytes : Int}
      (found : g.owners.lookup owner = some o) (attached : o.growth = some growth)
      (at_lane : g.lanes.lookup o.lane = some slot) (unfenced : o.closed = false) (positive : 0 ≤ bytes)
      (lane : slot.growth + bytes ≤ laneLimit) (group : g.growth + bytes ≤ aggregateGenerationGrowthBytes) :
      LaneStep g [.reserved g.nextReservation bytes]
        { (g.setSlot o.lane { slot with growth := slot.growth + bytes }).setOwner owner
            (lend o growth ⟨slot.id,bytes,g.nextReservation⟩) with
          growth := g.growth + bytes
          nextReservation := g.nextReservation + 1 }
  | republished (call owner) : LaneStep g (LaneOwners.publishedEvents call none owner) g
  | published (call) {owner o slot} (found : g.owners.lookup owner = some o) (unfenced : o.closed = false)
      (at_lane : g.lanes.lookup o.lane = some slot) (vacant : slot.serving = none) :
      LaneStep g (LaneOwners.publishedEvents call none owner) (serve g owner o slot)
  | replaced (call) {owner old o served slot} (found : g.owners.lookup owner = some o) (unfenced : o.closed = false)
      (at_lane : g.lanes.lookup o.lane = some slot) (serving : slot.serving = some old)
      (other : g.owners.lookup old = some served) (different : owner ≠ old) :
      LaneStep g (LaneOwners.publishedEvents call (some old) owner)
        (serve (g.setOwner old { served with state := .draining }) owner o slot)
  | touch {owner o o'} (found : g.owners.lookup owner = some o) (touches : Touches o o') :
      LaneStep g [] (g.setOwner owner o')
  | begin {owner o o'} (found : g.owners.lookup owner = some o) (serving : o.state = .serving)
      (raised : o.activity < o'.activity) (touches : Touches o o') : LaneStep g [.began owner] (g.setOwner owner o')
  | fenced {owner o} (found : g.owners.lookup owner = some o) (stage : o.closing = .no) :
      LaneStep g [] (g.setOwner owner { o with closed := true, closing := .fenced })
  | joined {owner o} (found : g.owners.lookup owner = some o) (stage : o.closing = .fenced) :
      LaneStep g [] (g.setOwner owner { o with application := [], closing := .joined })
  | released {owner o} (found : g.owners.lookup owner = some o) (stage : o.closing = .joined) :
      LaneStep g [] (g.setOwner owner { o with
        growth := o.growth.map fun _ => { closing := true }
        closing := .releasing ((o.growth.map Growth.releases).getD []) })
  | refunded {owner o lease rest} (found : g.owners.lookup owner = some o)
      (stage : o.closing = .releasing (lease :: rest)) :
      LaneStep g [.released lease.reservation] (g.setOwner owner { o with closing := .refunded lease rest })
  | settled {owner o slot lease rest} (found : g.owners.lookup owner = some o)
      (stage : o.closing = .refunded lease rest) (at_lane : g.lanes.lookup o.lane = some slot) :
      LaneStep g [] { (g.setSlot o.lane { slot with growth := slot.growth + -lease.bytes }).setOwner owner
        { o with closing := .releasing rest } with growth := g.growth + -lease.bytes }
  | emptied {owner o slot} (found : g.owners.lookup owner = some o) (stage : o.closing = .releasing [])
      (at_lane : g.lanes.lookup o.lane = some slot) (alone : slot.owners.erase owner = []) :
      LaneStep g [] { g.setOwner owner (leave o (some slot.release)) with lanes := g.lanes.erase o.lane }
  | left {owner o slot} (found : g.owners.lookup owner = some o) (stage : o.closing = .releasing [])
      (at_lane : g.lanes.lookup o.lane = some slot) (others : slot.owners.erase owner ≠ []) :
      LaneStep g [] ((g.setSlot o.lane (without slot owner)).setOwner owner (leave o none))
  | finished {owner o baseline} (found : g.owners.lookup owner = some o) (stage : o.closing = .removed baseline) :
      LaneStep g (baseline.map Event.released).toList (g.setOwner owner { o with closing := .done })

/-- What a step to `middle` does to the calls in progress. -/
inductive CallStep (g : LaneOwners) : LaneOwners → List Event → Table Nat Call → Nat → Prop where
  | keep {middle events} (unseen : ∀ call owner, Event.observed call owner ∉ events) :
      CallStep g middle events g.calls g.nextCall
  | choose {middle} (owner old quiet) :
      CallStep g middle [] (g.calls.insert g.nextCall (.chosen owner old quiet)) (g.nextCall + 1)
  | vacant {middle} (owner) : CallStep g middle [] (g.calls.insert g.nextCall (.ready owner none 0)) (g.nextCall + 1)
  | observe {call old owner quiet o} (chosen : g.calls.lookup call = some (.chosen owner old quiet))
      (found : g.owners.lookup old = some o) :
      CallStep g g [.observed call old] (g.calls.insert call (g.observation o owner old quiet)) g.nextCall
  | conclude {middle call old epoch owner quiet empty attached} (replacement)
      (observing : g.calls.lookup call = some (.observing owner old quiet epoch empty attached)) :
      CallStep g middle [] (g.calls.insert call (.ready replacement (some old) epoch)) g.nextCall
  | finish {middle events} (call) (unseen : ∀ call owner, Event.observed call owner ∉ events) :
      CallStep g middle events (g.calls.erase call) g.nextCall

end P2pstream.Semantics.TunnelLanes
