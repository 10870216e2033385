import Mathlib.Logic.Function.Basic

/-! The hand-off of a scavenging pass, `finishActiveReleaseLocked`, `runScavengeAfterRelease` and
`requestMemoryScavenge` of `adaptive_capacity.go`, one atomic operation a step. A release asks for
a pass only where a controller is present.
-/
namespace P2pstream.Kernel.MemoryScavenge

/-- Where a thread stands in `runScavengeAfterRelease(true)`. -/
inductive Call where
  | idle
  | begun
  /-- The compare-and-swap failed and the signal is not yet stored. -/
  | refused
  deriving DecidableEq

/-- The next operation of a worker. -/
inductive Worker where
  | absent
  | free
  | swap
  | stop
  | recheck
  | reclaim
  deriving DecidableEq

structure State where
  scavengeRunning : Bool := false
  scavengeNeeded : Bool := false
  /-- What the release that holds the mutex has swapped out of `scavengeNeeded`. -/
  shouldScavenge : Option Bool := none
  calls : Nat → Call := fun _ => .idle
  workers : Nat → Worker := fun _ => .absent

inductive Event where
  | began
  /-- A call of `freeOSMemory` starts. -/
  | pass
  deriving DecidableEq

inductive Input where
  /-- The swap of a release. -/
  | take
  /-- The release was the last one, at this pressure; if it asks for a pass, its call begins. -/
  | drain (call : Nat) (pressed : Bool)
  /-- Other work is active, and the release stores the signal again. -/
  | keep
  /-- The compare-and-swap of a requester; the worker is the one it starts. -/
  | request (call worker : Nat)
  | signal (call : Nat)
  | work (worker : Nat)
  /-- An admission rejected under pressure stores the signal too. -/
  | reject

def setCall (s : State) (call : Nat) (next : Call) : State := { s with calls := Function.update s.calls call next }

def setWorker (s : State) (worker : Nat) (next : Worker) : State :=
  { s with workers := Function.update s.workers worker next }

/-- One operation of the loop of a worker. -/
def work (s : State) (worker : Nat) : Option (State × List Event) :=
  match s.workers worker with
  | .absent => none
  | .free => some (setWorker s worker .swap,[.pass])
  | .swap => some (setWorker { s with scavengeNeeded := false } worker (if s.scavengeNeeded then .free else .stop),[])
  | .stop => some (setWorker { s with scavengeRunning := false } worker .recheck,[])
  | .recheck =>
    some (setWorker { s with scavengeNeeded := false } worker (if s.scavengeNeeded then .reclaim else .absent),[])
  | .reclaim =>
    some (setWorker { s with scavengeRunning := true } worker (if s.scavengeRunning then .absent else .free),[])

def step (s : State) : Input → Option (State × List Event)
  | .take =>
    if s.shouldScavenge = none then some ({ s with scavengeNeeded := false, shouldScavenge := s.scavengeNeeded },[])
    else none
  | .drain call pressed =>
    match s.shouldScavenge with
    | none => none
    | some shouldScavenge =>
      if s.calls call ≠ .idle then none
      else if shouldScavenge || pressed then some (setCall { s with shouldScavenge := none } call .begun,[.began])
      else some ({ s with shouldScavenge := none },[])
  | .keep =>
    match s.shouldScavenge with
    | none => none
    | some shouldScavenge =>
      some ({ s with shouldScavenge := none, scavengeNeeded := shouldScavenge || s.scavengeNeeded },[])
  | .request call worker =>
    if s.calls call = .begun ∧ s.workers worker = .absent then
      if s.scavengeRunning then some (setCall s call .refused,[])
      else some (setWorker (setCall { s with scavengeRunning := true } call .idle) worker .free,[])
    else none
  | .signal call =>
    if s.calls call = .refused then some (setCall { s with scavengeNeeded := true } call .idle,[]) else none
  | .work worker => work s worker
  | .reject => some ({ s with scavengeNeeded := true },[])

end P2pstream.Kernel.MemoryScavenge
