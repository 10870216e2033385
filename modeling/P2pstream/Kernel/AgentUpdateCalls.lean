import P2pstream.Kernel.AgentUpdateSystem

/-! The calls `CheckAgentUpdate` and `ReportAgentUpdate` as a whole. A report holds the update mutex
throughout, so it is one step with everything that follows its acceptance; a check consumes its
counter in a statement of its own and works in sections after that.
-/
namespace P2pstream.Kernel.AgentUpdates
open Library

structure CheckMessage where
  agentPublicID : String
  counter : Int
  signature : Bytes
  deriving DecidableEq

def CheckMessage.bounded (m : CheckMessage) : Bool :=
  m.agentPublicID ≠ "" && m.agentPublicID.utf8ByteSize ≤ 128 && 0 < m.counter && m.counter ≤ maxInt64 &&
    m.signature.length = 64

/-- What the sections of a call read beside the tables: route blockers, drain state, a nonce and
clocks. A section that fails in the database is not made. -/
structure Answers where
  advances : Bool
  blockers : List String
  drained : Bool
  drainedBlockers : List String
  nonce : Bytes
  reconciles : Bool
  releases : Bool
  finalizes : Bool
  now : Int
  later : Int
  deriving DecidableEq

namespace System

variable (p : Primitives)

/-- `tryAdvanceAgentUpdateAssignmentLocked`: cordon a staged row, then authorize a drained one. -/
def tryAdvance (s : System) (agent : Nat) (answers : Answers) : System × List Event :=
  if answers.advances then
    let s := (s.tryCordon agent answers.blockers answers.now).getD s
    (s.tryAuthorizeDrained p agent answers.drained answers.drainedBlockers answers.nonce answers.later).getD (s,[])
  else (s,[])

/-- What `reconcileAgentUpdateSuccessLocked` does once the row has succeeded. -/
def releaseAfter (s : System) (campaign : Nat) (answers : Answers) : System :=
  let s := if answers.releases then
      ((s.campaigns.lookup campaign).bind fun c =>
        s.releaseNextAgentUpdateStageCohort campaign c.policy answers.later).getD s
    else s
  if answers.finalizes then s.finalizeCompletedAgentUpdateCampaigns answers.later else s

def reconcile (s : System) (agent : Nat) (answers : Answers) : System × List Event :=
  if answers.reconciles then
    match s.reconcileAgentUpdateSuccess agent answers.later with
    | none => (s,[])
    | some (s,[.succeeded row now]) => (s.releaseAfter row.campaignID answers,[.succeeded row now])
    | some (s,events) => (s,events)
  else (s,[])

/-- The report is not only acknowledged: it names the active row at its generation, and does not
repeat what is committed. -/
def fresh (s : System) (identity : Identity) (m : Report) : Option (Assignment × Campaign) := do
  let (row,campaign) ← s.activeAgentUpdateAssignment identity.agentID
  guard (row.id = m.assignmentID ∧ row.generation = m.generation ∧ m.matchesCommittedOutcome row = false ∧
    ¬ (m.rootAction.isSome ∧ ∃ receipt ∈ m.rootActionReceipt, ∃ action ∈ m.rootAction,
      m.repeatsReceipt p identity row action receipt = true))
  pure (row,campaign)

/-- `ReportAgentUpdate`. -/
def reportCall (s : System) (m : Report) (answers : Answers) : Option (System × List Event) := do
  let (reported,events) ← s.reportAgentUpdate p m answers.now
  let identity ← s.authenticateAgentUpdaterRequest p m
  match s.fresh p identity m with
  | none => pure (reported,events)
  | some (_,campaign) =>
    let staged := m.state = .staged ∧ campaign.state = .running
    let (advanced,advances) := if staged then reported.tryAdvance p identity.agentID answers else (reported,[])
    let (reconciled,reconciles) := advanced.reconcile identity.agentID answers
    pure (reconciled,events ++ advances ++ reconciles)

variable (checkPayload : CheckMessage → Bytes)

def authenticateCheck (s : System) (m : CheckMessage) : Option Identity :=
  (Table.values s.identities).find? fun identity =>
    identity.agentPublicID = m.agentPublicID && identity.enabled &&
      p.verify identity.updaterPublicKey (checkPayload m) m.signature

end System

/-- A check whose counter was consumed, with the counter it replaced. -/
structure CheckCall where
  agent : Nat
  replaced : Int
  counter : Int
  deriving DecidableEq

structure Server where
  system : System
  checks : Table Nat CheckCall
  nextCheck : Nat

inductive ServerInput where
  /-- Any other transaction: enrollment, campaigns, tunnels and maintenance. -/
  | other (input : Input)
  | report (m : Report) (answers : Answers)
  | check (m : CheckMessage)
  | checkReconcile (call : Nat) (answers : Answers)
  | checkAdvance (call : Nat) (answers : Answers)
  | checkAuthorize (call : Nat) (answers : Answers)

def Input.ofCalls : Input → Bool
  | .report _ _ => true
  | .checkCounter _ _ => true
  | .ensureAuthorization _ _ _ _ _ _ => true
  | _ => false

namespace Server

variable (p : Primitives) (checkPayload : CheckMessage → Bytes)

def initial : Server where
  system := System.initial
  checks := ∅
  nextCheck := 0

/-- `CheckAgentUpdate` up to its counter. A check of an agent that is pinned elsewhere ends here. -/
def check (s : Server) (m : CheckMessage) : Option Server := do
  guard m.bounded
  let authority ← s.system.authority
  let identity ← s.system.authenticateCheck p checkPayload m
  let counted ← s.system.consumeAgentUpdaterCounter identity.agentID m.counter
  if pinnedTo authority identity then
    let call : CheckCall := { agent := identity.agentID, replaced := identity.lastCounter, counter := m.counter }
    pure { system := counted, checks := s.checks.insert s.nextCheck call, nextCheck := s.nextCheck + 1 }
  else pure { s with system := counted }

def step (s : Server) : ServerInput → Option (Server × List Event)
  | .other input => do
    guard (input.ofCalls = false)
    let (system,events) ← System.step p s.system input
    pure ({ s with system },events)
  | .report m answers => do
    let (system,events) ← s.system.reportCall p m answers
    pure ({ s with system },events)
  | .check m => (s.check p checkPayload m).map fun next => (next,[])
  | .checkReconcile call answers => do
    let check ← s.checks.lookup call
    let (system,events) := s.system.reconcile check.agent answers
    pure ({ s with system },events)
  | .checkAdvance call answers => do
    let check ← s.checks.lookup call
    let (row,campaign) ← s.system.activeAgentUpdateAssignment check.agent
    guard (campaign.state = .running ∧ (row.state = .staged ∨ row.draining))
    let (system,events) := s.system.tryAdvance p check.agent answers
    pure ({ s with system },events)
  | .checkAuthorize call answers => do
    let check ← s.checks.lookup call
    let (row,campaign) ← s.system.activeAgentUpdateAssignment check.agent
    guard (campaignAllowsAgentUpdateAuthorization campaign.state row.desiredAction)
    let (system,events) ← s.system.ensureAgentUpdateAssignmentAuthorization p check.agent row.id row.generation
      row.desiredAction answers.nonce answers.now
    pure ({ s with system },events)

end Server

end P2pstream.Kernel.AgentUpdates
