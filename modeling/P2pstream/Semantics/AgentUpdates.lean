import P2pstream.Kernel.AgentUpdateSystem

/-! What managed updates are for, in their own terms: an agent is fenced off from
public traffic from the moment a privileged command for it exists until its new or
restored build has proved itself over a fresh tunnel.
-/
namespace P2pstream.Semantics.AgentUpdates
open Library Kernel.AgentUpdates

/-- No privileged command was signed for the row and no evidence is stored. -/
structure Unauthorized (row : Assignment) : Prop where
  authorization : row.authorization.action = none
  activatedAt : row.activatedAt = none
  completedAt : row.root.completedAt = none
  freshTunnelAt : row.freshTunnelAt = none
  healthyAt : row.healthyAt = none

/-- A privileged command may be executing, or its outcome is not yet proved. -/
structure Fenced (row : Assignment) : Prop where
  cordoned : row.cordoned = true
  phase : (row.desiredAction = .activate ∧ (row.state = .cordoned ∨ row.state = .activating)) ∨
    (row.desiredAction = .rollback ∧ row.state.answersRollback = true) ∨
    (row.desiredAction = .none ∧ (row.state = .awaitingTunnel ∨ row.state = .healthyDwell ∨ row.state = .blocked))

/-- The life of an assignment. Only a fenced one has a command outstanding. -/
inductive Phase (row : Assignment) : Prop where
  | idle (open_ : row.cordoned = false)
      (state : row.state = .pending ∨ row.state = .staging ∨ row.state = .staged ∨ row.state = .blocked)
      (action : row.desiredAction = .none ∨ row.desiredAction = .stage) (unauthorized : Unauthorized row)
  | draining (drains : row.draining = true) (unauthorized : Unauthorized row)
  | fenced (fenced : Fenced row)
  | closed (open_ : row.cordoned = false) (state : row.state.terminal = true) (action : row.desiredAction = .none)

/-- The stored root result of a row was verified against its current authorization
and its campaign, by a report accepted earlier. -/
def ReceiptVerified (p : Primitives) (past : List Event) (target : Target) (action : AssignmentAction)
    (row : Assignment) : Prop :=
  ∃ identity prior campaign receipt now, .receiptStored identity prior campaign receipt action now ∈ past ∧
    prior.id = row.id ∧ prior.generation = row.generation ∧ prior.authorization = row.authorization ∧
    campaign.target = target ∧
    verifyAgentUpdateRootActionReceipt p identity prior campaign receipt action now = true ∧
    row.root = storedRootResult receipt now

/-- What is known of an activation when it succeeds: when the root action completed,
when its tunnel connected and when its health report was accepted. -/
structure SuccessEvidence (p : Primitives) (past : List Event) (row : Assignment) (campaign : Campaign) (conn : Conn)
    (completedAt healthyAt now : Int) : Prop where
  running : campaign.state = .running
  activation : row.authorization.action = some .activate
  receipt : ReceiptVerified p past campaign.target .activate row
  completion : row.root.completedAt = some completedAt
  tunnel : completedAt < conn.connectedAt
  build : conn.build = { version := campaign.target.version, commit := campaign.target.commit }
  health : ∃ prior, .healthy prior healthyAt ∈ past ∧ prior.id = row.id ∧ prior.generation = row.generation
  dwell : max completedAt (max conn.connectedAt healthyAt) + campaign.policy.healthyDwellMillis * millisecond ≤ now

/-- The stored row may succeed: its campaign and the current tunnel of its agent
complete the evidence. -/
def MaySucceed (p : Primitives) (past : List Event) (s : System) (row : Assignment) (now : Int) : Prop :=
  ∃ campaign conn completedAt healthyAt, s.assignments.lookup row.id = some row ∧
    s.campaigns.lookup row.campaignID = some campaign ∧ s.hub.lookup row.agentID = some conn ∧
    SuccessEvidence p past row campaign conn completedAt healthyAt now

/-- The stored row's rollback is reported and its agent is back over a tunnel that
connected after the rollback and is recorded. -/
def MayRecover (p : Primitives) (past : List Event) (s : System) (row : Assignment) : Prop :=
  ∃ campaign conn completedAt, s.assignments.lookup row.id = some row ∧
    s.campaigns.lookup row.campaignID = some campaign ∧ s.hub.lookup row.agentID = some conn ∧
    row.authorization.action = some .rollback ∧ ReceiptVerified p past campaign.target .rollback row ∧
    row.root.completedAt = some completedAt ∧ row.freshTunnelAt = some conn.connectedAt ∧ completedAt < conn.connectedAt

def subject : Event → Assignment
  | .authorized row _ => row
  | .receiptStored _ row _ _ _ _ => row
  | .healthy row _ => row
  | .recovered row _ => row
  | .succeeded row _ => row

def arms (id : Nat) : Event → Prop
  | .authorized row _ => row.id = id
  | _ => False

def releases (id : Nat) : Event → Prop
  | .recovered row _ => row.id = id
  | .succeeded row _ => row.id = id
  | _ => False

/-- A privileged authorization was stored for the assignment and not released since. -/
def Armed (past : List Event) (id : Nat) : Prop :=
  ∃ before event after, past = before ++ event :: after ∧ arms id event ∧ ∀ later ∈ after, ¬ releases id later

/-- The live cordon set is the set of agents with an active cordoned assignment. -/
def LiveCordons (s : System) : Prop :=
  ∀ agent, agent ∈ s.cordons ↔
    ∃ row ∈ Table.values s.assignments, row.agentID = agent ∧ row.active = true ∧ row.cordoned = true

end P2pstream.Semantics.AgentUpdates
