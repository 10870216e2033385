import Mathlib.Logic.Function.Basic

/-! `serveRetiringTunnelLane` of `lane_retirement.go`: the supervisor of one bulk lane and its tunnel attempts,
numbered as they start. A select takes any case that is ready; a timer may always have fired.
-/
namespace P2pstream.Kernel.LaneRetirement

/-- `connect` runs, its result waits in the channel, the supervisor has it. -/
inductive Completion where
  | running
  | sent
  | received
  deriving DecidableEq

structure LaneAttempt where
  /-- The interval of the `laneReady` that waits in the channel. -/
  ready : Option Int := none
  done : Completion := .running

/-- Where the supervisor waits; `leaving` and `joining` are its deferred loop over the attempts. -/
inductive Phase where
  | opening (current : Nat)
  | permanent (current : Nat)
  | serving (current : Nat)
  | replacing (current next : Nat)
  | draining (old current : Nat) (servingEnded : Bool)
  | leaving
  | joining (attempt : Nat)
  | returned
  deriving DecidableEq

structure Supervisor where
  cancelled : Bool := false
  started : Nat := 0
  lanes : Nat → LaneAttempt := fun _ => {}
  attempts : List Nat := []
  phase : Phase := .returned

inductive Input where
  | cancel
  | report (attempt : Nat) (interval : Int)
  | finish (attempt : Nat)
  | ctxDone
  | ready
  | done (attempt : Nat)
  | timer
  | tick (receiveOwnersDrained : Bool)
  | next

inductive Event where
  | started (attempt : Nat) (replaces : Option Nat)
  | ready (attempt : Nat)
  | drained (attempt : Nat)
  | cancelled (attempt : Nat)
  | completed (attempt : Nat)
  | leaving

namespace Supervisor

def set (s : Supervisor) (attempt : Nat) (lane : LaneAttempt) : Supervisor :=
  { s with lanes := Function.update s.lanes attempt lane }

def start (s : Supervisor) (replaces : Option Nat) (wait : Nat → Phase) : Supervisor × List Event :=
  ({ s.set s.started {} with started := s.started + 1, attempts := s.attempts ++ [s.started], phase := wait s.started },
    [.started s.started replaces])

def takeReady (s : Supervisor) (attempt : Nat) (wait : Int → Phase) : Option (Supervisor × List Event) :=
  (s.lanes attempt).ready.map fun interval =>
    ({ s.set attempt { s.lanes attempt with ready := none } with phase := wait interval },[.ready attempt])

def forget (s : Supervisor) (attempt : Nat) (wait : Phase) : Supervisor × List Event :=
  let cancels := if attempt ∈ s.attempts then [.cancelled attempt] else []
  let leaves := if wait = .leaving then [.leaving] else []
  ({ s with attempts := s.attempts.erase attempt, phase := wait },.completed attempt :: cancels ++ leaves)

/-- The supervisor received from the `done` of the attempt. -/
def ended (s : Supervisor) (attempt : Nat) : Option (Supervisor × List Event) :=
  match s.phase with
  | .opening current | .permanent current | .serving current =>
    if attempt = current then some (s.forget attempt .leaving) else none
  | .replacing current next => if attempt = next then some (s.forget attempt (.serving current)) else none
  | .draining old current servingEnded =>
    if attempt = old then some (s.forget attempt (if servingEnded then .leaving else .serving current))
    else if attempt = current ∧ servingEnded = false then some (s.forget attempt (.draining old current true))
    else none
  | .joining current =>
    if attempt = current then some ({ s with attempts := s.attempts.tail, phase := .leaving },[.completed attempt]) else none
  | .leaving | .returned => none

def step (s : Supervisor) : Input → Option (Supervisor × List Event)
  | .cancel => some ({ s with cancelled := true },[])
  | .report attempt interval =>
    if attempt < s.started ∧ (s.lanes attempt).done = .running ∧ (s.lanes attempt).ready = none then
      some (s.set attempt { s.lanes attempt with ready := some interval },[])
    else none
  | .finish attempt =>
    if attempt < s.started ∧ (s.lanes attempt).done = .running then
      some (s.set attempt { s.lanes attempt with done := .sent },[])
    else none
  | .ctxDone =>
    match s.phase with
    | .leaving | .joining _ | .returned => none
    | _ => if s.cancelled then some ({ s with phase := .leaving },[.leaving]) else none
  | .ready =>
    match s.phase with
    | .opening current => s.takeReady current fun interval => if interval = 0 then .permanent current else .serving current
    | .replacing current next => s.takeReady next fun _ => .draining current next false
    | _ => none
  | .done attempt =>
    -- The channel is closed after its only value.
    if (s.lanes attempt).done = .running then none
    else (s.set attempt { s.lanes attempt with done := .received }).ended attempt
  | .timer =>
    match s.phase with
    | .serving current => some (s.start (some current) (.replacing current))
    | _ => none
  | .tick receiveOwnersDrained =>
    match s.phase with
    | .draining old .. => some (s,if receiveOwnersDrained then [.drained old,.cancelled old] else [])
    | _ => none
  | .next =>
    match s.phase,s.attempts with
    | .leaving,[] => some ({ s with phase := .returned },[])
    | .leaving,attempt :: _ => some ({ s with phase := .joining attempt },[.cancelled attempt])
    | _,_ => none

/-- The supervisor after its first `start`. -/
def new : Supervisor := (start {} none .opening).1

end Supervisor

end P2pstream.Kernel.LaneRetirement
