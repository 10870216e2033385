import P2pstream.Kernel.StreamCapacityOperations
import P2pstream.Library.Transitions

/-! The stream-capacity manager with its callers: controllers, refreshes between
their critical sections, ended contexts and outstanding reservations. Every input
is one critical section or the end of contexts, so runs over inputs are the
interleavings of the concurrent calls. Callers may refresh at any time; the refresh
that admission performs first is therefore an input of its own.
-/
namespace P2pstream.Kernel.StreamCapacity
open Library Kernel.AdaptiveMemory

structure System where
  manager : Manager
  controllers : Table Nat Controller
  nextController : Nat
  refreshes : Table Nat Refresh
  nextRefresh : Nat
  ended : List Nat
  /-- The looks of a dispatch, by pass and waiter, that find a context ended which was running
  when the operation began. -/
  late : List (Nat × Nat)
  reservations : Table Nat Reservation
  nextReservation : Nat

inductive Input where
  | acquire (ctx : Nat) (c : CapacityClass) (queueKey sessionKey : String)
  | tryAcquire (c : CapacityClass) (queueKey sessionKey : String)
  | endContext (ctx : Nat)
  /-- Contexts may end at any look of the operations that follow. -/
  | endLate (late : List (Nat × Nat))
  | cancelWaiter (waiter : Waiter)
  | waiterReady (waiter : Waiter)
  | markLive (lease : Nat)
  | markClosing (lease : Nat)
  | release (lease : Nat)
  | registerSession (sessionKey : String) (limit : Int)
  | unregisterSession (sessionKey : String)
  | reserve (reservation : Reservation)
  | releaseReservation (handle : Nat)
  | newController (config : Config) (fdSampler : Bool)
  | enable (controller : Nat)
  | refreshStart (force : Bool) (checked now : Int)
  | refreshSample (refresh : Nat) (sample : Sample)
  | refreshFinish (refresh : Nat)

namespace System

/-- The system around a manager that `newAgentStreamCapacityManager` returned. -/
def initial (manager : Manager) : System where
  manager
  controllers := ∅
  nextController := 0
  refreshes := ∅
  nextRefresh := 0
  ended := []
  late := []
  reservations := ∅
  nextReservation := 0

def expired (s : System) (ctx : Nat) : Bool := ctx ∈ s.ended

def err (s : System) (pass : Nat) (waiter : Waiter) : Bool := s.expired waiter.ctx || (pass,waiter.id) ∈ s.late

/-- A goroutine waits on the waiter it enqueued: while that waiter is queued, it
is the one in the queue. -/
def holdsWaiter (s : System) (waiter : Waiter) : Bool :=
  s.manager.waiterStatus.lookup waiter.id ≠ some .queued || waiter ∈ s.manager.queuedWaiters

/-- Generations belong to one controller instance, so a controller is enabled
once: no earlier refresh of it is still in flight. -/
def mayEnable (s : System) (controller : Nat) : Bool :=
  (s.controllers.lookup controller).isSome && (s.manager.adaptiveMemory = some controller ||
    (Table.values s.refreshes).all fun refresh => refresh.controller ≠ controller)

def settle (s : System) (outcome : Manager × List Event) : System × List Event :=
  ({ s with manager := outcome.1 },outcome.2)

def step (s : System) : Input → Option (System × List Event)
  | .acquire ctx c queueKey sessionKey =>
    -- `lockAdaptiveAdmission` waits for sampling to finish or the context to end.
    if s.manager.adaptiveSampling > 0 ∧ ¬ s.expired ctx then none
    else
      let (left,_,events) := s.manager.acquire s.expired s.err ctx c queueKey sessionKey
      some (s.settle (left,events))
  | .tryAcquire c queueKey sessionKey =>
    if s.manager.adaptiveSampling > 0 then none
    else
      let (left,_,events) := s.manager.tryAcquire c queueKey sessionKey
      some (s.settle (left,events))
  | .endContext ctx => some ({ s with ended := ctx :: s.ended },[])
  | .endLate late => some ({ s with late },[])
  | .cancelWaiter waiter =>
    if s.expired waiter.ctx ∧ s.holdsWaiter waiter then
      some (s.settle (s.manager.cancelWaiter s.err waiter))
    else none
  | .waiterReady waiter => some ({ s with manager := s.manager.waiterReady s.expired waiter },[])
  | .markLive id =>
    let (left,_,events) := s.manager.markLive s.err id
    some (s.settle (left,events))
  | .markClosing id =>
    let (left,_,events) := s.manager.markClosing s.err id
    some (s.settle (left,events))
  | .release id =>
    let (left,_,events) := s.manager.release s.err id
    some (s.settle (left,events))
  | .registerSession sessionKey limit =>
    some (s.settle (s.manager.registerSessionWithLimit s.err sessionKey limit))
  | .unregisterSession sessionKey => some (s.settle (s.manager.unregisterSession s.err sessionKey))
  | .reserve reservation =>
    if s.manager.adaptiveSampling > 0 then none
    else match s.manager.tryReserveAdaptiveResourceMode reservation with
      | (left,.reserved,events) =>
        some ({ s with manager := left, nextReservation := s.nextReservation + 1,
                       reservations := s.reservations.insert s.nextReservation reservation },events)
      | (left,_,events) => some (s.settle (left,events))
  | .releaseReservation handle =>
    match s.reservations.lookup handle with
    | none => none
    | some reservation =>
      some ({ s with reservations := s.reservations.erase handle }.settle
        (s.manager.releaseReservation s.err reservation))
  | .newController config fdSampler =>
    if accepted : config.validate = none then
      some ({ s with nextController := s.nextController + 1,
                     controllers := s.controllers.insert s.nextController { config, accepted, fdSampler } },[])
    else none
  | .enable controller =>
    if s.mayEnable controller then
      some ({ s with manager := s.manager.enableAdaptiveMemory controller },[])
    else none
  | .refreshStart force checked now =>
    match s.manager.refreshStart force checked now with
    | (left,some refresh) =>
      some ({ s with manager := left, nextRefresh := s.nextRefresh + 1,
                     refreshes := s.refreshes.insert s.nextRefresh refresh },[])
    | (left,none) => some ({ s with manager := left },[])
  | .refreshSample id sample =>
    match s.refreshes.lookup id with
    | some ⟨controller,force,sampling,maximum,inUse,none⟩ =>
      match s.controllers.lookup controller with
      | none => none
      | some source =>
        let (sampled,next) := source.snapshotAt sample maximum inUse force
        some ({ s with controllers := s.controllers.insert controller sampled,
                       refreshes := s.refreshes.insert id ⟨controller,force,sampling,maximum,inUse,some next⟩ },[])
    | _ => none
  | .refreshFinish id =>
    match s.refreshes.lookup id with
    | some refresh =>
      match refresh.next with
      | some next =>
        some ({ s with refreshes := s.refreshes.erase id }.settle
          (s.manager.refreshFinish s.err refresh next))
      | none => none
    | none => none

end System

end P2pstream.Kernel.StreamCapacity
