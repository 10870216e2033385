import P2pstream.Kernel.AgentUpdateOperations
import P2pstream.Library.Transitions

/-! Draining, authorization, reports and reconciliation of managed updates, and the
control plane as a machine. Every input is one transaction with the change of the
live cordon set that follows it under the same mutex; a handler that runs several
transactions in a row is several inputs, so runs contain its every interruption.
-/
namespace P2pstream.Kernel.AgentUpdates
open Library

namespace System

variable (p : Primitives)

/-- The staged part of `tryAdvanceAgentUpdateAssignmentLocked`: the fence goes up
before the row is written and comes down again if the write misses. -/
def tryCordon (s : System) (agent : Nat) (blockers : List String) (now : Int) : Option System :=
  match s.activeAgentUpdateAssignment agent with
  | none => none
  | some (row,campaign) =>
    if campaign.state = .running ∧ row.state = .staged ∧ blockers = [] then
      match s.agentUpdateCohortEligible row campaign.policy with
      | .waiting => none
      | .failed => some (s.pauseRunning row.campaignID now)
      | .eligible size =>
        if (s.unavailableInCampaign row.campaignID : Int) < min campaign.policy.maxUnavailable size then
          let fenced := s.setAgentUpdateCordon agent
          some (if row.cordoned then fenced.clearAgentUpdateCordon agent
            else fenced.setAssignment (row.cordon (truncate now)))
        else none
    else none

/-- `tryAuthorizeDrainedAgentUpdateAssignmentLocked`; `drained` and `blockers` are
what the hub and the routes say at that moment. -/
def tryAuthorizeDrained (s : System) (agent : Nat) (drained : Bool) (blockers : List String) (nonce : Bytes)
    (now : Int) : Option (System × List Event) :=
  match s.activeAgentUpdateAssignment agent with
  | none => none
  | some (row,campaign) =>
    if row.draining ∧ campaign.state = .running then
      if row.updatedAt + agentUpdateDrainTimeout ≤ now then
        some (((s.setAssignment (row.drainTimedOut (truncate now))).pauseRunning row.campaignID
          (truncate now)).clearAgentUpdateCordon agent,[])
      else if drained then
        if blockers ≠ [] then
          if row.authorization.action = none then
            let detail := p.boundedString (",".intercalate blockers) 2048
            some (((s.setAssignment (row.drainUnwound detail (truncate now))).pauseRunning row.campaignID
              (truncate now)).clearAgentUpdateCordon agent,[])
          else none
        else do
          let authority ← s.authority
          let identity ← s.enabledIdentity agent
          let authorization ← issueAssignmentAuthorization p authority identity row campaign .activate
            s.serverVersion nonce (truncate now)
          pure ((s.setIdentity { identity with lastCommandSequence := authorization.commandSequence }).setAssignment
            (row.activationAuthorized authorization (truncate now)),[.authorized row authorization])
      else none
    else none

def reusable (row : Assignment) (campaign : Campaign) (identity : Identity) (action : AssignmentAction) (now : Int) :
    Bool :=
  row.authorization.action = some action && row.authorization.expiresAt.any (now < ·) &&
    (storedAssignmentAuthorization p row campaign identity).isSome

def ensureAgentUpdateAssignmentAuthorization (s : System) (agent assignmentID : Nat) (generation : Int)
    (desired : DesiredAction) (nonce : Bytes) (now : Int) : Option (System × List Event) := do
  let (row,campaign) ← s.activeAgentUpdateAssignment agent
  guard (row.id = assignmentID ∧ row.generation = generation ∧ row.desiredAction = desired)
  let action ← desiredActionAuth desired
  guard (campaignAllowsAgentUpdateAuthorization campaign.state desired)
  let identity ← s.enabledIdentity agent
  if reusable p row campaign identity action (truncate now) then pure (s,[])
  else do
    let authority ← s.authority
    let authorization ← issueAssignmentAuthorization p authority identity row campaign action s.serverVersion nonce
      (truncate now)
    pure ((s.setIdentity { identity with lastCommandSequence := authorization.commandSequence }).setAssignment
      (row.reauthorized authorization (truncate now)),[.authorized row authorization])

def authenticateAgentUpdaterRequest (s : System) (m : Report) : Option Identity :=
  (Table.values s.identities).find? fun identity =>
    identity.agentPublicID = m.agentPublicID && identity.enabled &&
      p.verify identity.updaterPublicKey (p.reportPayload m) m.signature

/-- Acknowledge without a change: the counter may only stay or advance. -/
def acknowledge (s : System) (identity : Identity) (m : Report) : Option System :=
  if m.counter < identity.lastCounter then none
  else some (s.setIdentity { identity with lastCounter := m.counter })

def acknowledgeSupersededRow (s : System) (identity : Identity) (m : Report) (row : Assignment) : Option System :=
  if row.generation ≤ m.generation ∧ row.state.terminal = false then none else s.acknowledge identity m

def acknowledgeSuperseded (s : System) (identity : Identity) (m : Report) : Option System := do
  let row ← s.assignments.lookup m.assignmentID
  guard (row.agentID = identity.agentID ∧ m.generation ≤ row.generation)
  s.acknowledgeSupersededRow identity m row

def consumeCounters (identity : Identity) (m : Report) (receipt : Option SignedReceipt) : Option Identity :=
  if identity.lastCounter < m.counter then
    match receipt with
    | none => some { identity with lastCounter := m.counter }
    | some receipt =>
      if 0 < receipt.value.rootActionCounter ∧ receipt.value.rootActionCounter ≤ maxInt64 ∧
          identity.lastRootActionCounter < receipt.value.rootActionCounter then
        some { identity with
          lastCounter := m.counter
          lastRootActionCounter := receipt.value.rootActionCounter }
      else none
  else none

def reportEvents (identity : Identity) (row : Assignment) (campaign : Campaign) (m : Report)
    (receipt : Option SignedReceipt) (now : Int) : List Event :=
  match m.rootAction,receipt with
  | some action,some receipt => [.receiptStored identity row campaign receipt action now]
  | _,_ => if m.state = .healthy then [.healthy row now] else []

/-- What follows the write of the row: a failure pauses the campaign, a root action
drops the tunnel that predates it. -/
def settleReport (s : System) (row : Assignment) (m : Report) (next : Transition) (now : Int) : System :=
  let s := if next.pauses then s.pauseRunning row.campaignID now else s
  let s := if m.rootAction.isSome then { s with hub := s.hub.erase row.agentID } else s
  if next.cordoned then s else s.clearAgentUpdateCordon row.agentID

def acceptReport (s : System) (identity : Identity) (row : Assignment) (campaign : Campaign) (m : Report)
    (now : Int) : Option (System × List Event) := do
  let artifact ← artifactForPlatform campaign.target.artifacts identity.os identity.arch
  let receipt ← reportEvidence p identity row campaign m now
  let next ← reportTransition row campaign artifact m
  let counted ← consumeCounters identity m receipt
  let stored := (s.setIdentity counted).setAssignment (row.reported p m next receipt now)
  pure (stored.settleReport row m next now,reportEvents identity row campaign m receipt now)

def reportAgentUpdate (s : System) (m : Report) (now : Int) : Option (System × List Event) := do
  guard m.bounded
  let authority ← s.authority
  let identity ← s.authenticateAgentUpdaterRequest p m
  guard (pinnedTo authority identity)
  match s.activeAssignments identity.agentID with
  | [] => (s.acknowledgeSuperseded identity m).map fun left => (left,[])
  | _ => do
    let (row,campaign) ← s.activeAgentUpdateAssignment identity.agentID
    if row.id ≠ m.assignmentID then (s.acknowledgeSuperseded identity m).map fun left => (left,[])
    else if row.generation ≠ m.generation then
      (s.acknowledgeSupersededRow identity m row).map fun left => (left,[])
    else if m.matchesCommittedOutcome row then (s.acknowledge identity m).map fun left => (left,[])
    else if (m.rootAction.isSome ∧ ∃ receipt ∈ m.rootActionReceipt, ∃ action ∈ m.rootAction,
        m.repeatsReceipt p identity row action receipt = true) then
      (s.acknowledge identity m).map fun left => (left,[])
    else s.acceptReport p identity row campaign m now

def evidenceComplete (row : Assignment) (conn : Option Conn) : Bool :=
  conn.any fun conn => row.freshTunnelAt = some conn.connectedAt && row.root.kind.isSome &&
    conn.build.version = row.root.version && conn.build.commit = row.root.commit &&
    row.observed.version = row.root.version && row.observed.commit = row.root.commit

def requiredEvidenceComplete (row : Assignment) (conn : Option Conn) : Bool :=
  evidenceComplete row conn && (row.authorization.action = some .rollback || row.healthyAt.isSome)

/-- A zero time when no health report was stored, as `sql.NullTime` has it. -/
def dwellStartedAt (row : Assignment) : Int :=
  max (max (row.healthyAt.getD 0) (row.freshTunnelAt.getD (row.healthyAt.getD 0))) row.updatedAt

def evidenceOverdue (row : Assignment) (conn : Option Conn) (now : Int) : Bool :=
  row.cordoned && (row.state = .awaitingTunnel || row.state = .healthyDwell) && !requiredEvidenceComplete row conn &&
    row.root.completedAt.any fun completedAt => completedAt + agentUpdatePostActionTimeout ≤ now

def evidenceFailureCode (row : Assignment) : String :=
  if row.authorization.action = some .rollback then "rollback_evidence_timeout" else "activation_evidence_timeout"

def rollbackRecovered (row : Assignment) (conn : Option Conn) : Bool :=
  row.authorization.action = some .rollback && row.state = .awaitingTunnel && row.cordoned &&
    row.root.completedAt.isSome && evidenceComplete row conn

def maySucceed (row : Assignment) (campaign : Campaign) (conn : Option Conn) (now : Int) : Bool :=
  campaign.state = .running && row.authorization.action = some .activate && row.state = .healthyDwell &&
    row.activatedAt.isSome && row.root.completedAt.isSome && row.healthyAt.isSome && evidenceComplete row conn &&
    row.root.kind = some .release && row.root.manifestSha256 = campaign.target.manifestSha256 &&
    row.root.artifactSha256 = row.attested.binarySha256 && row.running.version = campaign.target.version &&
    row.running.commit = campaign.target.commit && row.observed.version = campaign.target.version &&
    row.observed.commit = campaign.target.commit &&
    campaign.policy.healthyDwellMillis * millisecond ≤ now - dwellStartedAt row

/-- The hub lock keeps the connection that was read current until the row is
written, so the decision and the write are one step. -/
def reconcileAgentUpdateSuccess (s : System) (agent : Nat) (now : Int) : Option (System × List Event) :=
  match s.activeAgentUpdateAssignment agent with
  | none => none
  | some (row,campaign) =>
    let conn := s.hub.lookup agent
    if row.desiredAction ≠ .none then none
    else if evidenceOverdue row conn now then
      some ((s.setAssignment (row.evidenceTimedOut (evidenceFailureCode row) (truncate now))).pauseRunning
        row.campaignID (truncate now),[])
    else if rollbackRecovered row conn then
      some ((s.setAssignment (row.recovered now)).clearAgentUpdateCordon agent,[.recovered row now])
    else if maySucceed row campaign conn now ∧ row.cordoned then
      some ((s.setAssignment (row.completed now)).clearAgentUpdateCordon agent,[.succeeded row now])
    else none

/-- `recordAgentUpdateFreshTunnel`; its unlocked look at the live cordon set only
skips work. -/
def persistAgentUpdateFreshTunnel (p : Primitives) (s : System) (agent : Nat) : Option System :=
  (s.hub.lookup agent).map fun conn => s.mapAssignments fun row =>
    if row.agentID = agent ∧ row.acceptsTunnel p conn.connectedAt then row.tunnelRecorded conn.connectedAt conn.build
    else row

structure MaintenanceItem where
  id : Nat
  campaignID : Nat
  state : AssignmentState
  action : DesiredAction
  campaignState : CampaignState
  cordoned : Bool
  updated : Int
  deriving DecidableEq

def blockTimedOutAgentUpdateStage (s : System) (item : MaintenanceItem) (now : Int) : Option System := do
  guard (item.campaignState = .running ∧ item.cordoned = false ∧ item.action = .stage ∧
    (item.state = .pending ∨ item.state = .staging) ∧ item.updated + agentUpdateStageTimeout ≤ now)
  let row ← s.assignments.lookup item.id
  guard (row.state = item.state ∧ row.desiredAction = item.action ∧ row.cordoned = false ∧ row.updatedAt = item.updated)
  pure ((s.setAssignment (row.stageTimedOut now)).pauseRunning item.campaignID now)

def blockTimedOutAgentUpdateRootAction (s : System) (item : MaintenanceItem) (now : Int) : Option System := do
  guard (item.cordoned ∧ (item.action = .activate ∨ item.action = .rollback) ∧
    item.updated + agentUpdatePostActionTimeout ≤ now)
  let row ← s.assignments.lookup item.id
  guard (row.desiredAction = item.action ∧ row.cordoned ∧ row.updatedAt = item.updated)
  pure ((s.setAssignment (row.rootActionTimedOut now)).pauseRunning item.campaignID now)

end System

inductive Input where
  | enroll (identity : Identity)
  | setAgentEnabled (agent : Nat) (enabled : Bool)
  | createCampaign (target : Target) (policy : Policy) (agents : List Nat) (now : Int)
  | changeCampaign (campaign : Nat) (expectedGeneration : Int) (change : System.CampaignChange) (now : Int)
  | retry (campaign : Nat) (expectedGeneration : Int) (ids : List Nat) (now : Int)
  | checkCounter (agent : Nat) (counter : Int)
  | cordon (agent : Nat) (blockers : List String) (now : Int)
  | authorizeDrained (agent : Nat) (drained : Bool) (blockers : List String) (nonce : Bytes) (now : Int)
  | ensureAuthorization (agent assignmentID : Nat) (generation : Int) (desired : DesiredAction) (nonce : Bytes)
      (now : Int)
  | report (m : Report) (now : Int)
  | reconcile (agent : Nat) (now : Int)
  | freshTunnel (agent : Nat)
  | blockStage (item : System.MaintenanceItem) (now : Int)
  | blockRootAction (item : System.MaintenanceItem) (now : Int)
  | releaseCohort (campaign : Nat) (now : Int)
  | finalize (now : Int)
  | connect (agent : Nat) (conn : Conn)
  | disconnect (agent : Nat)
  | restart (authority : Option Authority) (serverVersion : String)

namespace System

def quietly (outcome : Option System) : Option (System × List Event) := outcome.map fun left => (left,[])

def step (p : Primitives) (s : System) : Input → Option (System × List Event)
  | .enroll identity => quietly (s.enroll identity)
  | .setAgentEnabled agent enabled => quietly (s.setAgentEnabled agent enabled)
  | .createCampaign target policy agents now => quietly (s.createAgentUpdateCampaign target policy agents now)
  | .changeCampaign campaign expectedGeneration change now =>
    quietly (s.changeAgentUpdateCampaignState campaign expectedGeneration change now)
  | .retry campaign expectedGeneration ids now =>
    quietly (s.retryAgentUpdateAssignments campaign expectedGeneration ids now)
  | .checkCounter agent counter => quietly (s.consumeAgentUpdaterCounter agent counter)
  | .cordon agent blockers now => quietly (s.tryCordon agent blockers now)
  | .authorizeDrained agent drained blockers nonce now => s.tryAuthorizeDrained p agent drained blockers nonce now
  | .ensureAuthorization agent assignmentID generation desired nonce now =>
    s.ensureAgentUpdateAssignmentAuthorization p agent assignmentID generation desired nonce now
  | .report m now => s.reportAgentUpdate p m now
  | .reconcile agent now => s.reconcileAgentUpdateSuccess agent now
  | .freshTunnel agent => quietly (s.persistAgentUpdateFreshTunnel p agent)
  | .blockStage item now => quietly (s.blockTimedOutAgentUpdateStage item now)
  | .blockRootAction item now => quietly (s.blockTimedOutAgentUpdateRootAction item now)
  -- Both callers pass the stored campaign. Maintenance reads it by the agent of its last active row;
  -- if that row has just left its dwell and the agent is in a newer campaign, all that the newer
  -- policy could release stands in the cohort of that row, which is in turn.
  | .releaseCohort campaign now => quietly ((s.campaigns.lookup campaign).bind fun c =>
      s.releaseNextAgentUpdateStageCohort campaign c.policy now)
  | .finalize now => quietly (some (s.finalizeCompletedAgentUpdateCampaigns now))
  | .connect agent conn => quietly (some { s with hub := s.hub.insert agent conn })
  | .disconnect agent => quietly (some { s with hub := s.hub.erase agent })
  | .restart authority serverVersion =>
    quietly (some { s.reloadAgentUpdateCordons with hub := ∅, authority, serverVersion })

end System

end P2pstream.Kernel.AgentUpdates
