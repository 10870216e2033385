import P2pstream.Kernel.AgentUpdateReports
import P2pstream.Library.Tables

/-! The transactions of the update control plane over its tables and the live
cordon set. An operation that fails rolls its transaction back and has no value.
-/
namespace P2pstream.Kernel.AgentUpdates
open Library

structure Conn where
  connectedAt : Int
  build : Build
  deriving DecidableEq

inductive Event where
  | authorized (row : Assignment) (authorization : Authorization)
  | receiptStored (identity : Identity) (row : Assignment) (campaign : Campaign) (receipt : SignedReceipt)
      (action : AssignmentAction) (now : Int)
  | healthy (row : Assignment) (now : Int)
  | recovered (row : Assignment) (now : Int)
  | succeeded (row : Assignment) (now : Int)

structure System where
  campaigns : Table Nat Campaign
  nextCampaign : Nat
  assignments : Table Nat Assignment
  nextAssignment : Nat
  identities : Table Nat Identity
  cordons : List Nat
  hub : Table Nat Conn
  authority : Option Authority
  serverVersion : String

namespace System

def initial : System where
  campaigns := ∅
  nextCampaign := 1
  assignments := ∅
  nextAssignment := 1
  identities := ∅
  cordons := []
  hub := ∅
  authority := none
  serverVersion := ""

def setAgentUpdateCordon (s : System) (agent : Nat) : System := { s with cordons := s.cordons.insert agent }

def clearAgentUpdateCordon (s : System) (agent : Nat) : System :=
  { s with cordons := s.cordons.filter (· ≠ agent) }

def publishCordons (s : System) (rows : List (Nat × Bool)) : System :=
  rows.foldl (fun s row => if row.2 then s.setAgentUpdateCordon row.1 else s.clearAgentUpdateCordon row.1) s

def reloadAgentUpdateCordons (s : System) : System :=
  { s with cordons := ((Table.values s.assignments).filter fun row => row.cordoned && row.active).map (·.agentID) }

def activeAssignments (s : System) (agent : Nat) : List Assignment :=
  (Table.values s.assignments).filter fun row => row.agentID = agent && row.active

def activeAgentUpdateAssignment (s : System) (agent : Nat) : Option (Assignment × Campaign) :=
  match s.activeAssignments agent with
  | [row] => (s.campaigns.lookup row.campaignID).map fun campaign => (row,campaign)
  | _ => none

def campaignAssignments (s : System) (campaign : Nat) : List Assignment :=
  ((Table.values s.assignments).filter fun row => row.campaignID = campaign).insertionSort fun a b => a.id ≤ b.id

def setAssignment (s : System) (row : Assignment) : System :=
  { s with assignments := s.assignments.insert row.id row }

def mapAssignments (s : System) (f : Assignment → Assignment) : System :=
  { s with assignments := Table.mapValues f s.assignments }

def setIdentity (s : System) (identity : Identity) : System :=
  { s with identities := s.identities.insert identity.agentID identity }

def setCampaign (s : System) (campaign : Nat) (c : Campaign) : System :=
  { s with campaigns := s.campaigns.insert campaign c }

/-- `UPDATE … SET state='paused' … WHERE id=? AND state='running'`. -/
def pauseRunning (s : System) (campaign : Nat) (now : Int) : System :=
  match s.campaigns.lookup campaign with
  | some c =>
    if c.state = .running then
      s.setCampaign campaign { c with state := .paused, generation := c.generation + 1, updatedAt := now }
    else s
  | none => s

def oneActivePerAgent (s : System) : Bool :=
  (Table.values s.assignments).all fun row => !row.active || (s.activeAssignments row.agentID).length = 1

def enabledIdentity (s : System) (agent : Nat) : Option Identity :=
  (s.identities.lookup agent).filter (·.enabled)

def enroll (s : System) (identity : Identity) : Option System :=
  if (s.activeAssignments identity.agentID).length = 0 then
    match s.identities.lookup identity.agentID with
    | none => some (s.setIdentity
        { identity with enabled := true, lastCounter := 0, lastCommandSequence := 0, lastRootActionCounter := 0 })
    | some old => some (s.setIdentity { identity with
        enabled := true
        lastCounter := if old.updaterKeyID = identity.updaterKeyID then old.lastCounter else 0
        lastCommandSequence :=
          if old.authorityKeyID = identity.authorityKeyID ∧ old.authorityEpoch = identity.authorityEpoch then
            old.lastCommandSequence else 0
        lastRootActionCounter :=
          if old.activatorKeyID = identity.activatorKeyID then old.lastRootActionCounter else 0 })
  else none

def setAgentEnabled (s : System) (agent : Nat) (enabled : Bool) : Option System :=
  (s.identities.lookup agent).map fun identity => s.setIdentity { identity with enabled }

def consumeAgentUpdaterCounter (s : System) (agent : Nat) (counter : Int) : Option System := do
  let identity ← s.enabledIdentity agent
  guard (identity.lastCounter < counter)
  pure (s.setIdentity { identity with lastCounter := counter })

def normalizedUniquePositiveIDs (ids : List Nat) : Option (List Nat) :=
  if ids ≠ [] ∧ ids.length ≤ 1000 ∧ ∀ id ∈ ids, 0 < id then some (ids.dedup.insertionSort (· ≤ ·)) else none

def normalizeAgentUpdatePolicy (policy : Policy) : Option Policy :=
  let default (value fallback : Int) := if value = 0 then fallback else value
  let result : Policy := {
    maxUnavailable := default policy.maxUnavailable 1
    minimumEligibleAgentsPerRoute := default policy.minimumEligibleAgentsPerRoute 1
    canaryCount := default policy.canaryCount 1
    waveSize := default policy.waveSize 1
    healthyDwellMillis := default policy.healthyDwellMillis 120000 }
  if 1 ≤ result.maxUnavailable ∧ result.maxUnavailable ≤ 100 ∧ 1 ≤ result.minimumEligibleAgentsPerRoute ∧
      result.minimumEligibleAgentsPerRoute ≤ 100 ∧ 1 ≤ result.canaryCount ∧ result.canaryCount ≤ 100 ∧
      1 ≤ result.waveSize ∧ result.waveSize ≤ 100 ∧ 10000 ≤ result.healthyDwellMillis ∧
      result.healthyDwellMillis ≤ 86400000 then some result
  else none

/-- Insert the assignments of a campaign; the first agents are its canaries. -/
def insertAssignments (s : System) (campaign : Nat) (canaries now : Int) : Nat → List Nat → System
  | _,[] => s
  | index,agent :: rest =>
    let action := if (index : Int) < canaries then DesiredAction.stage else .none
    let row := Assignment.inserted s.nextAssignment campaign agent action now
    insertAssignments { s.setAssignment row with nextAssignment := s.nextAssignment + 1 } campaign canaries now
      (index + 1) rest

def createAgentUpdateCampaign (s : System) (target : Target) (policy : Policy) (agents : List Nat) (now : Int) :
    Option System := do
  let policy ← normalizeAgentUpdatePolicy policy
  let agents ← normalizedUniquePositiveIDs agents
  guard (∀ agent ∈ agents, s.activeAssignments agent = [])
  let campaign : Campaign := {
    id := s.nextCampaign, state := .running, generation := 1, target, policy, updatedAt := now, completedAt := none }
  let created := { s.setCampaign s.nextCampaign campaign with nextCampaign := s.nextCampaign + 1 }
  pure (created.insertAssignments s.nextCampaign policy.canaryCount now 0 agents)

inductive CampaignChange where
  | pause | resume | cancel
  deriving DecidableEq

def CampaignChange.state : CampaignChange → CampaignState
  | .pause => .paused
  | .resume => .running
  | .cancel => .cancelled

def CampaignChange.row (now : Int) (row : Assignment) : CampaignChange → Assignment
  | .pause => row.pause now
  | .resume => row.resume now
  | .cancel => row.cancel now

def changeRows (s : System) (campaign : Nat) (f : Assignment → Assignment) : System :=
  s.mapAssignments fun row => if row.campaignID = campaign then f row else row

def campaignCordons (s : System) (campaign : Nat) : List (Nat × Bool) :=
  ((Table.values s.assignments).filter fun row => row.campaignID = campaign).map fun row => (row.agentID,row.cordoned)

def changeAgentUpdateCampaignState (s : System) (campaign : Nat) (expectedGeneration : Int) (change : CampaignChange)
    (now : Int) : Option System := do
  guard (0 < campaign ∧ 0 < expectedGeneration)
  guard (change = .resume → ∀ row ∈ s.campaignAssignments campaign, row.blocksResume = false)
  let c ← s.campaigns.lookup campaign
  guard (c.generation = expectedGeneration ∧ c.state ≠ .cancelled ∧ c.state ≠ .completed)
  let changed := s.setCampaign campaign
    { c with state := change.state, generation := c.generation + 1, updatedAt := now }
  let written := changed.changeRows campaign (change.row now)
  pure (if change = .resume then written else written.publishCordons (written.campaignCordons campaign))

def retries (s : System) (campaign : Nat) (c : Campaign) (ids : List Nat) :
    Option (List (Assignment × Assignment.RetryKind)) :=
  ids.mapM fun id => do
    let row ← s.assignments.lookup id
    guard (row.campaignID = campaign)
    let kind ← row.retryKind c.state
    pure (row,kind)

def retryRows (now : Int) (c : CampaignState) (ids : List Nat) (row : Assignment) : Assignment :=
  if row.id ∈ ids then
    match row.retryKind c with
    | some kind => row.retried now kind
    | none => row
  else row

def retryAgentUpdateAssignments (s : System) (campaign : Nat) (expectedGeneration : Int) (ids : List Nat)
    (now : Int) : Option System := do
  guard (0 < campaign ∧ 0 < expectedGeneration)
  let ids ← normalizedUniquePositiveIDs ids
  let c ← s.campaigns.lookup campaign
  guard (c.generation = expectedGeneration ∧ c.state ≠ .completed)
  let named ← s.retries campaign c ids
  let changed := s.setCampaign campaign { c with generation := c.generation + 1, updatedAt := now }
  let written := changed.mapAssignments (retryRows now c.state ids)
  -- Reviving a finished assignment fails on the unique index when the agent has another one.
  guard written.oneActivePerAgent
  pure (written.publishCordons (named.map fun item => (item.1.agentID,item.2 = .rollback)))

/-- The first and the one past the last position of the cohort of a position. -/
def cohort (policy : Policy) (count position : Nat) : Nat × Nat :=
  let canaries := min (max 1 policy.canaryCount.toNat) count
  let wave := max 1 policy.waveSize.toNat
  if position < canaries then (0,canaries)
  else
    let start := canaries + (position - canaries) / wave * wave
    (start,min (start + wave) count)

inductive Cohort where
  | waiting
  | failed
  | eligible (size : Nat)
  deriving DecidableEq

def AssignmentState.terminalFailure : AssignmentState → Bool
  | .failed | .blocked | .cancelled => true
  | _ => false

def agentUpdateCohortEligible (s : System) (row : Assignment) (policy : Policy) : Cohort :=
  let states := (s.campaignAssignments row.campaignID).map (·.state)
  match (s.campaignAssignments row.campaignID).findIdx? (·.id = row.id) with
  | none => .waiting
  | some position =>
    let (start,stop) := cohort policy states.length position
    match (states.take start).find? (· ≠ .succeeded) with
    | some state => if AssignmentState.terminalFailure state then .failed else .waiting
    | none =>
      match ((states.take stop).drop start).find? fun state =>
          AssignmentState.terminalFailure state || state = .pending || state = .staging with
      | some state => if AssignmentState.terminalFailure state then .failed else .waiting
      | none => .eligible (stop - start)

def unavailableInCampaign (s : System) (campaign : Nat) : Nat :=
  (s.campaignAssignments campaign).countP fun row =>
    row.cordoned || row.state = .activating || row.state = .awaitingTunnel || row.state = .healthyDwell

/-- The bounds of the cohort to stage, computed apart from those of `cohort`. -/
def stageCohort (policy : Policy) (count first : Int) : Int × Int :=
  let canaryCount := if policy.canaryCount < 1 then 1 else policy.canaryCount
  let canaryCount := if count < canaryCount then count else canaryCount
  let waveSize := if policy.waveSize < 1 then 1 else policy.waveSize
  if canaryCount ≤ first then
    let start := canaryCount + (first - canaryCount) / waveSize * waveSize
    (start,if count < start + waveSize then count else start + waveSize)
  else (0,canaryCount)

def releaseNextAgentUpdateStageCohort (s : System) (campaign : Nat) (policy : Policy) (now : Int) : Option System := do
  let c ← s.campaigns.lookup campaign
  guard (c.state = .running)
  let rows := s.campaignAssignments campaign
  let first := rows.findIdx (·.state ≠ .succeeded)
  guard (first < rows.length)
  let (start,stop) := stageCohort policy rows.length first
  guard ((rows.take start.toNat).all (·.state = .succeeded))
  let released := ((rows.take stop.toNat).drop start.toNat).filter fun row =>
    row.state = .pending && row.desiredAction = .none
  let ids := released.map (·.id)
  pure (s.mapAssignments fun row => if row.id ∈ ids then row.stageReleased (truncate now) else row)

def finalizeCompletedAgentUpdateCampaigns (s : System) (now : Int) : System :=
  { s with campaigns := Table.mapValues (fun c =>
      if c.state = .running ∧ ((s.campaignAssignments c.id).all fun row => !row.active) then
        { c with state := .completed, generation := c.generation + 1, completedAt := some now, updatedAt := now }
      else c) s.campaigns }

end System

end P2pstream.Kernel.AgentUpdates
