import P2pstream.Kernel.AgentUpdateRecords

/-! The statements that write one row of the assignment table: for each the
condition of its `WHERE` clause and the row its `SET` clause leaves.
-/
namespace P2pstream.Kernel.AgentUpdates

namespace Assignment

/-- `agentUpdateResetRootEvidenceSQL`. -/
def withoutRootEvidence (row : Assignment) : Assignment :=
  { row with root := {}, attested := {}, freshTunnelAt := none, healthyAt := none, observed := {} }

def inserted (id campaignID agentID : Nat) (action : DesiredAction) (now : Int) : Assignment where
  id := id
  campaignID := campaignID
  agentID := agentID
  state := .pending
  desiredAction := action
  generation := 1
  cordoned := false
  failureCode := ""
  failureDetail := ""
  attested := {}
  authorization := {}
  root := {}
  running := {}
  observed := {}
  activatedAt := none
  freshTunnelAt := none
  healthyAt := none
  lastReportAt := none
  updatedAt := now

def blocksResume (row : Assignment) : Bool :=
  (row.state = .failed || row.state = .blocked) && !(row.cordoned && row.desiredAction = .rollback)

def reversible (row : Assignment) : Bool :=
  !row.state.terminal && row.activatedAt.isNone && row.authorization.action.isNone &&
    row.desiredAction ≠ .activate && row.desiredAction ≠ .rollback && (!row.cordoned || row.state = .cordoned)

def cancelled (now : Int) (row : Assignment) : Assignment :=
  { row with state := .cancelled, desiredAction := .none, generation := row.generation + 1, cordoned := false
             updatedAt := now }

def awaitsRecovery (row : Assignment) : Bool :=
  row.state = .awaitingTunnel && row.desiredAction = .none && row.authorization.action = some .rollback &&
    row.root.completedAt.isSome

def needsRollback (row : Assignment) : Bool := !row.state.terminal && !row.awaitsRecovery

def rollbackRequested (now : Int) (row : Assignment) : Assignment :=
  { row.withoutRootEvidence with
    desiredAction := .rollback, generation := row.generation + 1, cordoned := true, authorization := {}
    lastReportAt := none, updatedAt := now }

def cancel (now : Int) (row : Assignment) : Assignment :=
  let row := if row.reversible then row.cancelled now else row
  if row.needsRollback then row.rollbackRequested now else row

def drains (row : Assignment) : Bool :=
  row.state = .cordoned && row.desiredAction = .none && row.authorization.action.isNone && row.cordoned

def pause (now : Int) (row : Assignment) : Assignment :=
  if row.drains then { row with state := .staged, cordoned := false, updatedAt := now } else row

def resume (now : Int) (row : Assignment) : Assignment :=
  if !row.cordoned && ((row.desiredAction = .stage && (row.state = .pending || row.state = .staging)) ||
      (row.desiredAction = .none && row.state = .staged)) then { row with updatedAt := now }
  else row

inductive RetryKind where
  | stage | rollback
  deriving DecidableEq

def retryKind (campaign : CampaignState) (row : Assignment) : Option RetryKind :=
  if row.state = .blocked ∧ row.cordoned then some .rollback
  else if campaign ≠ .cancelled ∧ row.cordoned = false ∧ (row.state = .blocked ∨ row.state = .cancelled ∨
      (row.state = .failed ∧ row.desiredAction = .none)) then some .stage
  else none

def retried (now : Int) (row : Assignment) : RetryKind → Assignment
  | .rollback => { row.withoutRootEvidence with
      state := .failed, desiredAction := .rollback, generation := row.generation + 1, failureCode := ""
      failureDetail := "", authorization := {}, lastReportAt := none, updatedAt := now }
  | .stage => { row.withoutRootEvidence with
      state := .pending, desiredAction := .none, generation := row.generation + 1, cordoned := false
      failureCode := "", failureDetail := "", authorization := {}, running := {}, activatedAt := none
      lastReportAt := none, updatedAt := now }

def cordon (now : Int) (row : Assignment) : Assignment :=
  { row with state := .cordoned, desiredAction := .none, cordoned := true, authorization := {}, updatedAt := now }

def draining (row : Assignment) : Bool := row.state = .cordoned && row.cordoned && row.desiredAction = .none

def drainTimedOut (now : Int) (row : Assignment) : Assignment :=
  { row with
    state := .blocked, desiredAction := .none, cordoned := false, failureCode := "drain_timeout"
    failureDetail := "active requests did not drain before the managed-update deadline", updatedAt := now }

def drainUnwound (detail : String) (now : Int) (row : Assignment) : Assignment :=
  { row with
    state := .staged, desiredAction := .none, cordoned := false, failureCode := "route_quorum_lost_during_drain"
    failureDetail := detail, updatedAt := now }

def activationAuthorized (authorization : Authorization) (now : Int) (row : Assignment) : Assignment :=
  { row with
    desiredAction := .activate, authorization, root := {}, freshTunnelAt := none, healthyAt := none
    updatedAt := now }

def reauthorized (authorization : Authorization) (now : Int) (row : Assignment) : Assignment :=
  { row with authorization, updatedAt := now }

def stageTimedOut (now : Int) (row : Assignment) : Assignment :=
  { row with
    state := .blocked, desiredAction := .none, failureCode := "stage_timeout"
    failureDetail := "staging or activation readiness did not complete before the deadline", updatedAt := now }

def rootActionTimedOut (now : Int) (row : Assignment) : Assignment :=
  { row with
    state := .blocked, desiredAction := .none, failureCode := "root_action_timeout"
    failureDetail := "the signed root action did not complete before the deadline", updatedAt := now }

def evidenceTimedOut (failureCode : String) (now : Int) (row : Assignment) : Assignment :=
  { row with
    state := .blocked, desiredAction := .none, failureCode
    failureDetail := "post-action tunnel and exact build evidence did not arrive before the deadline"
    updatedAt := now }

def recovered (now : Int) (row : Assignment) : Assignment :=
  { row with state := .failed, desiredAction := .none, cordoned := false, updatedAt := now }

def completed (now : Int) (row : Assignment) : Assignment :=
  { row with state := .succeeded, desiredAction := .none, cordoned := false, updatedAt := now }

def stageReleased (now : Int) (row : Assignment) : Assignment :=
  { row with desiredAction := .stage, updatedAt := now }

/-- `root_action_completed_at<?`. Both sides are texts, the first in UTC and the second in the server's
local time: first the clock readings are compared and then the offsets, of which `+00:00` is the least. -/
def completedBefore (p : Primitives) (completedAt connectedAt : Int) : Bool :=
  let reading := connectedAt + p.zone connectedAt
  completedAt < reading || completedAt = reading && p.zone connectedAt ≠ 0

/-- A tunnel counts as fresh when it connected after the root action completed. -/
def acceptsTunnel (p : Primitives) (connectedAt : Int) (row : Assignment) : Bool :=
  row.cordoned && row.desiredAction = .none && (row.root.completedAt.any (completedBefore p · connectedAt)) &&
    (row.state = .awaitingTunnel || row.state = .healthyDwell) && row.freshTunnelAt ≠ some connectedAt

def tunnelRecorded (connectedAt : Int) (build : Build) (row : Assignment) : Assignment :=
  { row with freshTunnelAt := some connectedAt, observed := build, updatedAt := connectedAt }

end Assignment

end P2pstream.Kernel.AgentUpdates
