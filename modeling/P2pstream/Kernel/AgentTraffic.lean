import P2pstream.Kernel.AgentUpdateSystem
import P2pstream.Kernel.TunnelLanes

/-! Traffic of agents beside managed updates: admission of public requests, streams dialled
through an agent, the transport pool, and the drain check of `agent_updates.go`. The check
reads one counter after the other without a lock they share; it runs under the mutex of the
update steps, which are those of the control plane.
-/
namespace P2pstream.Kernel.AgentTraffic
open Library

structure AgentConn where
  agentID : Nat
  activeRequests : Int := 0
  tunnelOwners : TunnelLanes.LaneOwners := .initial

/-- A public request that chose a connection; it is in flight once it is admitted. -/
structure PublicRequest where
  conn : Nat
  admitted : Bool := false
  deriving DecidableEq

/-- How far `dialViaAgentWithCapacity` has come: past its first look at the cordon, with a
lease and the second look to come, or past that. Only the last opens a stream. -/
inductive DialState where
  | cleared | leased | opened
  deriving DecidableEq

structure Dial where
  conn : Nat
  state : DialState := .cleared
  deriving DecidableEq

/-- What `agentUpdateAgentDrained` reads next. -/
inductive Look where
  | requests
  | pooled
  | snapshot
  | owners (rest : List Nat)
  | leases
  | done
  deriving DecidableEq

structure DrainCheck where
  id : Nat
  agent : Nat
  conn : Nat
  next : Look := .requests
  deriving DecidableEq

inductive Finding where
  | noRequest
  | noPooled
  | owners (all : List Nat)
  | quiescent (owner : Nat)
  | noLease
  deriving DecidableEq

/-- Connections, requests, dials and pooled requests are named by the order of their
creation; `latest` is the newest connection of an agent. -/
structure Traffic where
  control : AgentUpdates.System
  connections : Table Nat AgentConn
  nextConnection : Nat
  latest : Table Nat Nat
  requests : Table Nat PublicRequest
  nextRequest : Nat
  dials : Table Nat Dial
  nextDial : Nat
  pooled : Table Nat Nat
  nextPooled : Nat
  check : Option DrainCheck
  nextCheck : Nat

inductive Event where
  | control (event : AgentUpdates.Event)
  | admitted (request conn : Nat)
  | found (check agent conn : Nat) (finding : Finding)

inductive Input where
  | control (input : AgentUpdates.Input)
  | select (conn : Nat)
  | begin_ (request : Nat)
  | complete (request : Nat)
  | dial (conn : Nat)
  | acquire (dial : Nat)
  | abandon (dial : Nat)
  | recheck (dial : Nat)
  | close (dial : Nat)
  | beginPooled (agent : Nat)
  | endPooled (request : Nat)
  | lane (conn : Nat) (input : TunnelLanes.Input)
  | check (agent : Nat)
  | look (receiveOwnersDrained : Bool)
  | authorize (blockers : List String) (nonce : AgentUpdates.Bytes) (now : Int)

namespace Traffic

def initial : Traffic where
  control := .initial
  connections := ∅
  nextConnection := 0
  latest := ∅
  requests := ∅
  nextRequest := 0
  dials := ∅
  nextDial := 0
  pooled := ∅
  nextPooled := 0
  check := none
  nextCheck := 0

/-- `connectedByID`. -/
def connectedByID (t : Traffic) (agent : Nat) : Option Nat :=
  if (t.control.hub.lookup agent).isSome then t.latest.lookup agent else none

def isAgentUpdateCordoned (t : Traffic) (agent : Nat) : Bool := agent ∈ t.control.cordons

/-- `inFlightForAgent`: requests of retired pool entries count until they end. -/
def inFlightForAgent (t : Traffic) (agent : Nat) : Nat := (Table.values t.pooled).count agent

/-- The `TotalBySession` entry of a connection: a lease lives from its grant to its release. -/
def leases (t : Traffic) (conn : Nat) : Nat :=
  (Table.values t.dials).countP fun dial => dial.conn = conn && dial.state ≠ .cleared

/-- `beginAgentUpdateProtectedRequest`: the look at the cordon and the count are one section
of the traffic lock, whose other side publishes and lifts cordons. -/
def beginAgentUpdateProtectedRequest (t : Traffic) (request : Nat) (r : PublicRequest) (conn : AgentConn) :
    Traffic × List Event :=
  if t.isAgentUpdateCordoned conn.agentID then ({ t with requests := t.requests.erase request },[])
  else
    ({ t with
      requests := t.requests.insert request { r with admitted := true }
      connections := t.connections.insert r.conn { conn with activeRequests := conn.activeRequests + 1 } },
      [.admitted request r.conn])

def completeRequest (t : Traffic) (request : Nat) (r : PublicRequest) (conn : AgentConn) : Traffic :=
  { t with
    requests := t.requests.erase request
    connections := t.connections.insert r.conn { conn with activeRequests := conn.activeRequests - 1 } }

def setDial (t : Traffic) (dial : Nat) (d : Dial) : Traffic := { t with dials := t.dials.insert dial d }

def endDial (t : Traffic) (dial : Nat) : Traffic := { t with dials := t.dials.erase dial }

def startDial (t : Traffic) (conn : Nat) (agent : AgentConn) : Traffic :=
  if t.isAgentUpdateCordoned agent.agentID then t
  else { t with dials := t.dials.insert t.nextDial { conn }, nextDial := t.nextDial + 1 }

def recheckDial (t : Traffic) (dial : Nat) (d : Dial) (agent : AgentConn) : Traffic :=
  if t.isAgentUpdateCordoned agent.agentID then t.endDial dial else t.setDial dial { d with state := .opened }

/-- `LaneOwners.Snapshot`. -/
def snapshot (g : TunnelLanes.LaneOwners) : List Nat := (Table.values g.lanes).flatMap (·.owners)

/-- `LaneOwner.Quiescent`; the session says whether its receive owners are drained. -/
def quiescent (o : TunnelLanes.LaneOwner) (receiveOwnersDrained : Bool) : Bool :=
  o.openingCount = 0 && o.application = [] && o.session.isSome && receiveOwnersDrained

/-- One look of `agentUpdateAgentDrained`: what it reads next and what it found, or `none`
when the agent is not drained. -/
def drainLook (t : Traffic) (c : DrainCheck) (conn : AgentConn) (receiveOwnersDrained : Bool) :
    Option (Look × List Finding) :=
  match c.next with
  | .requests => if conn.activeRequests = 0 then some (.pooled,[.noRequest]) else none
  | .pooled => if t.inFlightForAgent c.agent = 0 then some (.snapshot,[.noPooled]) else none
  | .snapshot => some (.owners (snapshot conn.tunnelOwners),[.owners (snapshot conn.tunnelOwners)])
  | .owners [] => some (.leases,[])
  | .owners (owner :: rest) =>
    if (conn.tunnelOwners.owners.lookup owner).any (quiescent · receiveOwnersDrained) then
      some (.owners rest,[.quiescent owner])
    else none
  | .leases => if t.leases c.conn = 0 then some (.done,[.noLease]) else none
  | .done => none

def takeLook (t : Traffic) (c : DrainCheck) (conn : AgentConn) (receiveOwnersDrained : Bool) : Traffic × List Event :=
  match t.drainLook c conn receiveOwnersDrained with
  | none => ({ t with check := none },[])
  | some (next,findings) =>
    ({ t with check := some { c with next } },findings.map fun finding => .found c.id c.agent c.conn finding)

/-- The condition under which an advance step asks whether the agent has drained. -/
def draining (t : Traffic) (agent : Nat) : Bool :=
  match t.control.activeAgentUpdateAssignment agent with
  | none => false
  | some (row,campaign) => row.draining && campaign.state = .running

def startCheck (t : Traffic) (agent : Nat) : Traffic :=
  match t.connectedByID agent with
  | none => t
  | some conn => { t with check := some { id := t.nextCheck, agent, conn }, nextCheck := t.nextCheck + 1 }

/-- Update steps hold the mutex; a new campaign, connections, counters of the updater and the
switch of an agent do not take it, and a restart needs nothing. -/
def underMutex : AgentUpdates.Input → Bool
  | .enroll .. | .setAgentEnabled .. | .createCampaign .. | .checkCounter .. | .connect .. | .disconnect .. | .restart .. => false
  | _ => true

def admits (t : Traffic) (input : AgentUpdates.Input) : Bool :=
  (t.check.isNone || !underMutex input) &&
    match input with
    | .authorizeDrained _ drained _ _ _ => !drained
    | _ => true

def afterControl (t : Traffic) (control : AgentUpdates.System) : AgentUpdates.Input → Traffic
  | .connect agent _ =>
    { t with
      control
      connections := t.connections.insert t.nextConnection { agentID := agent }
      nextConnection := t.nextConnection + 1
      latest := t.latest.insert agent t.nextConnection }
  | .restart .. =>
    { t with control, connections := ∅, latest := ∅, requests := ∅, dials := ∅, pooled := ∅, check := none }
  | _ => { t with control }

variable (p : AgentUpdates.Primitives)

def authorize (t : Traffic) (c : DrainCheck) (blockers : List String) (nonce : AgentUpdates.Bytes) (now : Int) :
    Traffic × List Event :=
  match t.control.tryAuthorizeDrained p c.agent true blockers nonce now with
  | none => ({ t with check := none },[])
  | some (control,events) => ({ t with control, check := none },events.map .control)

def step (t : Traffic) : Input → Option (Traffic × List Event)
  | .control input =>
    if t.admits input then
      (AgentUpdates.System.step p t.control input).map fun (control,events) =>
        (t.afterControl control input,events.map .control)
    else none
  | .select conn => (t.connections.lookup conn).map fun _ =>
      ({ t with requests := t.requests.insert t.nextRequest { conn }, nextRequest := t.nextRequest + 1 },[])
  | .begin_ request => do
    let r ← t.requests.lookup request
    guard (r.admitted = false)
    let conn ← t.connections.lookup r.conn
    pure (t.beginAgentUpdateProtectedRequest request r conn)
  | .complete request => do
    let r ← t.requests.lookup request
    guard (r.admitted = true)
    let conn ← t.connections.lookup r.conn
    pure (t.completeRequest request r conn,[])
  | .dial conn => (t.connections.lookup conn).map fun agent => (t.startDial conn agent,[])
  | .acquire dial => do
    let d ← t.dials.lookup dial
    guard (d.state = .cleared)
    pure (t.setDial dial { d with state := .leased },[])
  | .abandon dial => do
    let d ← t.dials.lookup dial
    guard (d.state = .cleared)
    pure (t.endDial dial,[])
  | .recheck dial => do
    let d ← t.dials.lookup dial
    guard (d.state = .leased)
    let agent ← t.connections.lookup d.conn
    pure (t.recheckDial dial d agent,[])
  | .close dial => do
    let d ← t.dials.lookup dial
    guard (d.state = .opened)
    pure (t.endDial dial,[])
  | .beginPooled agent =>
    some ({ t with pooled := t.pooled.insert t.nextPooled agent, nextPooled := t.nextPooled + 1 },[])
  | .endPooled request => some ({ t with pooled := t.pooled.erase request },[])
  | .lane conn input => do
    let agent ← t.connections.lookup conn
    let (tunnelOwners,_) ← agent.tunnelOwners.step input
    pure ({ t with connections := t.connections.insert conn { agent with tunnelOwners } },[])
  | .check agent => do
    guard (t.check = none ∧ t.draining agent = true)
    pure (t.startCheck agent,[])
  | .look receiveOwnersDrained => do
    let c ← t.check
    let conn ← t.connections.lookup c.conn
    guard (c.next ≠ .done)
    pure (t.takeLook c conn receiveOwnersDrained)
  | .authorize blockers nonce now => do
    let c ← t.check
    guard (c.next = .done)
    pure (t.authorize p c blockers nonce now)

end Traffic

end P2pstream.Kernel.AgentTraffic
