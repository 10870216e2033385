import P2pstream.Kernel.AgentUpdateRows

/-! `ReportAgentUpdate` on the active row: which reports are accepted in which
phase, and the row an accepted report leaves.
-/
namespace P2pstream.Kernel.AgentUpdates

variable (p : Primitives)

def Report.rootAction (m : Report) : Option AssignmentAction :=
  match m.state with
  | .activated => some .activate
  | .rolledBack => some .rollback
  | _ => none

def Report.bounded (m : Report) : Bool :=
  m.agentPublicID ≠ "" && m.agentPublicID.utf8ByteSize ≤ 128 && 0 < m.counter && m.counter ≤ maxInt64 &&
    m.signature.length = 64 && 0 < m.assignmentID && 0 < m.generation && m.manifestSha256.utf8ByteSize ≤ 64 &&
    m.binarySha256.utf8ByteSize ≤ 64 && m.runningVersion.utf8ByteSize ≤ 256 && m.runningCommit.utf8ByteSize ≤ 256 &&
    m.failureCode.utf8ByteSize ≤ 128 && m.failureDetail.utf8ByteSize ≤ 2048 && m.activationNonce.length ≤ 64 &&
    m.activatorSignature.length ≤ 64 &&
    (m.rootAction.isNone || (m.activationCounter = 0 && m.activationNonce = [] && m.activatorSignature = [] &&
      m.rootActionReceipt.isSome))

/-- A failure that repeats an already committed outcome is acknowledged only. -/
def Report.matchesCommittedOutcome (m : Report) (row : Assignment) : Bool :=
  (m.state = .failed && row.desiredAction = .none && row.root.completedAt.isSome && row.root.receiptPayload ≠ [] &&
    (row.state = .awaitingTunnel || row.state = .healthyDwell || row.state = .blocked) &&
    ((row.authorization.action = some .activate && m.failureCode = "activation_failed") ||
      (row.authorization.action = some .rollback && m.failureCode = "rollback_failed"))) ||
  (row.state = .blocked && row.desiredAction = .none &&
    ((m.state = .failed && m.failureCode = row.failureCode && m.failureDetail = row.failureDetail) ||
      (m.state = .healthy && row.root.completedAt.isSome && m.manifestSha256 = row.root.manifestSha256 &&
        m.binarySha256 = row.root.artifactSha256 && m.runningVersion = row.root.version &&
        m.runningCommit = row.root.commit)))

def Report.repeatsReceipt (m : Report) (identity : Identity) (row : Assignment) (expected : AssignmentAction)
    (receipt : SignedReceipt) : Bool :=
  rootActionReceiptCanonical p receipt && row.root.completedAt.isSome && row.authorization.action = some expected &&
    row.root.counter = receipt.value.rootActionCounter &&
    identity.lastRootActionCounter = receipt.value.rootActionCounter &&
    row.root.receiptPayload = receipt.canonicalPayload && row.root.receiptSignature = receipt.signature &&
    p.verify identity.activatorPublicKey receipt.canonicalPayload receipt.signature &&
    agentUpdateReportMatchesRootResult m receipt.value

def Report.matchesStoredRelease (m : Report) (row : Assignment) : Bool :=
  row.activatedAt.isSome && row.root.kind = some .release && m.manifestSha256 = row.root.manifestSha256 &&
    m.binarySha256 = row.root.artifactSha256 && m.runningVersion = row.root.version &&
    m.runningCommit = row.root.commit

def AssignmentState.answersRollback : AssignmentState → Bool
  | .failed | .blocked | .cordoned | .activating | .awaitingTunnel | .healthyDwell => true
  | _ => false

structure Transition where
  state : AssignmentState
  action : DesiredAction
  cordoned : Bool
  pauses : Bool := false
  deriving DecidableEq

def reportTransition (row : Assignment) (campaign : Campaign) (artifact : Artifact) (m : Report) : Option Transition :=
  match m.state with
  | .downloading =>
    if row.desiredAction = .stage ∧ (row.state = .pending ∨ row.state = .staging) then
      some { state := .staging, action := row.desiredAction, cordoned := row.cordoned }
    else none
  | .staged =>
    if row.desiredAction = .stage ∧ (row.state = .pending ∨ row.state = .staging) ∧
        m.manifestSha256 = campaign.target.manifestSha256 ∧ m.binarySha256 = artifact.sha256 then
      some { state := .staged, action := .none, cordoned := row.cordoned }
    else none
  | .activated =>
    if row.desiredAction = .activate ∧ row.cordoned ∧ (row.state = .cordoned ∨ row.state = .activating) then
      some { state := .awaitingTunnel, action := .none, cordoned := row.cordoned }
    else none
  | .healthy =>
    if row.activatedAt.isSome ∧ (row.state = .awaitingTunnel ∨ row.state = .healthyDwell) then
      some { state := .healthyDwell, action := row.desiredAction, cordoned := row.cordoned }
    else none
  | .failed =>
    if row.desiredAction = .stage ∧ row.cordoned = false ∧ (row.state = .pending ∨ row.state = .staging) then
      some { state := .failed, action := .none, cordoned := row.cordoned, pauses := true }
    else if row.desiredAction = .activate ∧ row.cordoned ∧ (row.state = .cordoned ∨ row.state = .activating) then
      some { state := .blocked, action := .none, cordoned := row.cordoned, pauses := true }
    else if row.desiredAction = .none ∧ row.cordoned ∧ row.activatedAt.isSome ∧
        (row.state = .awaitingTunnel ∨ row.state = .healthyDwell) then
      some { state := .blocked, action := .none, cordoned := row.cordoned, pauses := true }
    else if row.desiredAction = .rollback ∧ row.cordoned ∧ row.state.answersRollback then
      some { state := .blocked, action := .none, cordoned := row.cordoned, pauses := true }
    else none
  | .rolledBack =>
    if row.desiredAction = .rollback ∧ row.cordoned ∧ row.state.answersRollback then
      some { state := .awaitingTunnel, action := .none, cordoned := true }
    else none

def Report.preservesAnchor (m : Report) (row : Assignment) : Bool :=
  m.state = .downloading || (m.state = .healthy && row.state = .healthyDwell && row.healthyAt.isSome)

def Assignment.withReceipt (receipt : SignedReceipt) (now : Int) (row : Assignment) : Assignment :=
  { row with
    attested := {
      manifestSha256 := receipt.value.resultManifestSHA256
      binarySha256 := receipt.value.resultArtifactSHA256
      activationCounter := receipt.value.rootActionCounter
      nonceHash := p.sha256 receipt.value.authorizationNonce }
    running := { version := receipt.value.resultVersion, commit := receipt.value.resultCommit }
    root := storedRootResult receipt now
    observed := {}
    freshTunnelAt := none
    healthyAt := none }

def Assignment.reported (m : Report) (next : Transition) (receipt : Option SignedReceipt) (now : Int)
    (row : Assignment) : Assignment :=
  let healthyAt := if m.state = .healthy ∧ row.healthyAt.isNone then some now else row.healthyAt
  let activatedAt := if m.state = .activated then some now else row.activatedAt
  let evidenced :=
    match receipt with
    | some receipt => row.withReceipt p receipt now
    | none => { row with healthyAt }
  { evidenced with
    state := next.state
    desiredAction := next.action
    cordoned := next.cordoned
    failureCode := p.boundedString m.failureCode 128
    failureDetail := p.boundedString m.failureDetail 2048
    activatedAt
    lastReportAt := some now
    updatedAt := if m.preservesAnchor row then row.updatedAt else now }

/-- The evidence a report must bring before its transition is looked at: a verified
receipt for a root action, the stored release for a health report. -/
def reportEvidence (identity : Identity) (row : Assignment) (campaign : Campaign) (m : Report) (now : Int) :
    Option (Option SignedReceipt) :=
  match m.rootAction with
  | some expected =>
    match m.rootActionReceipt with
    | none => none
    | some receipt =>
      if verifyAgentUpdateRootActionReceipt p identity row campaign receipt expected now ∧
          agentUpdateReportMatchesRootResult m receipt.value then some (some receipt)
      else none
  | none => if m.state = .healthy ∧ m.matchesStoredRelease row = false then none else some none

end P2pstream.Kernel.AgentUpdates
