import P2pstream.AgentUpdateInvariant

/-! Where the stored evidence of an assignment comes from. Every column that the
success check reads was written by an accepted report or a recorded tunnel of the
current generation, so a row succeeds on complete evidence only, unless the server's
local time is ahead of UTC and makes an older tunnel look fresh.
-/
namespace P2pstream.AgentUpdateEvidence
open Library Kernel.AgentUpdates Semantics.AgentUpdates Checks List System Assignment Bool Transitions
open AgentUpdateSteps AgentUpdatePhases AgentUpdateInvariant

variable {p : Primitives} {s next : System} {input : Input} {past events : List Event} {id : Nat} {row row' : Assignment}
  {campaigns later : Table Nat Campaign} {fence : Option Bool}

structure Evidenced (p : Primitives) (past : List Event) (campaigns : Table Nat Campaign) (row : Assignment) : Prop where
  receipt : row.root.completedAt.isSome = true → row.desiredAction = .none ∧ ∃ campaign action,
    campaigns.lookup row.campaignID = some campaign ∧ row.authorization.action = some action ∧
      ReceiptVerified p past campaign.target action row
  tunnel : ∀ time, row.freshTunnelAt = some time →
    ∃ completedAt, row.root.completedAt = some completedAt ∧ completedBefore p completedAt time
  health : ∀ time, row.healthyAt = some time → ∃ prior, .healthy prior time ∈ past ∧ prior.id = row.id ∧
    prior.generation = row.generation

theorem evidenced_bare (completedAt : row.root.completedAt = none) (freshTunnelAt : row.freshTunnelAt = none)
    (healthyAt : row.healthyAt = none) : Evidenced p past campaigns row := by
  constructor <;> simp [completedAt,freshTunnelAt,healthyAt]

theorem Evidenced.mono (evidenced : Evidenced p past campaigns row) (events : List Event)
    (targets : ∀ c, campaigns.lookup row.campaignID = some c →
      ∃ c', later.lookup row.campaignID = some c' ∧ c'.target = c.target) :
    Evidenced p (past ++ events) later row := by
  refine ⟨fun completed => ?_,evidenced.tunnel,fun time stored => ?_⟩
  · obtain ⟨desired,campaign,action,found,authorized,verified⟩ := evidenced.receipt completed
    obtain ⟨campaign',found',target⟩ := targets campaign found
    refine ⟨desired,campaign',action,found',authorized,?_⟩
    obtain ⟨identity,prior,then_,receipt,now,mem,rest⟩ := verified
    rw [target]
    exact ⟨identity,prior,then_,receipt,now,mem_append_left _ mem,rest⟩
  · obtain ⟨prior,mem,same⟩ := evidenced.health time stored
    exact ⟨prior,mem_append_left _ mem,same⟩

/-- The columns the evidence of a row is about are kept, and no action is asked for anew. -/
structure SameEvidence (row row' : Assignment) : Prop where
  id : row'.id = row.id
  campaignID : row'.campaignID = row.campaignID
  generation : row'.generation = row.generation
  authorization : row'.authorization = row.authorization
  root : row'.root = row.root
  freshTunnelAt : row'.freshTunnelAt = row.freshTunnelAt
  desired : row'.desiredAction = row.desiredAction ∨ row'.desiredAction = .none

theorem verified_same {target : Target} {action : AssignmentAction} (same : SameEvidence row row')
    (verified : ReceiptVerified p past target action row) : ReceiptVerified p past target action row' := by
  obtain ⟨identity,prior,campaign,receipt,now,mem,key,generation,authorization,targets,verifies,stored⟩ := verified
  refine ⟨identity,prior,campaign,receipt,now,mem,?_,?_,?_,targets,verifies,?_⟩
  · rw [same.id,key]
  · rw [same.generation,generation]
  · rw [same.authorization,authorization]
  · rw [same.root,stored]

theorem Evidenced.same (evidenced : Evidenced p past campaigns row) (same : SameEvidence row row')
    (health : ∀ time, row'.healthyAt = some time → row.healthyAt = some time ∨ .healthy row time ∈ past) :
    Evidenced p past campaigns row' := by
  refine ⟨fun completed => ?_,fun time stored => ?_,fun time stored => ?_⟩
  · rw [same.root] at completed
    obtain ⟨desired,campaign,action,found,authorized,verified⟩ := evidenced.receipt completed
    refine ⟨?_,campaign,action,?_,?_,verified_same same verified⟩
    · rcases same.desired with kept | none
      · rw [kept,desired]
      · exact none
    · rw [same.campaignID,found]
    · rw [same.authorization,authorized]
  · rw [same.root]
    rw [same.freshTunnelAt] at stored
    exact evidenced.tunnel time stored
  · rw [same.id,same.generation]
    rcases health time stored with old | reported
    · exact evidenced.health time old
    · exact ⟨row,reported,rfl,rfl⟩

variable {now : Int}

theorem verified_action {identity : Identity} {campaign : Campaign} {receipt : SignedReceipt} {action : AssignmentAction}
    (verified : verifyAgentUpdateRootActionReceipt p identity row campaign receipt action now) :
    row.authorization.action = some action := by
  unfold verifyAgentUpdateRootActionReceipt at verified
  simp only [and_eq_true] at verified
  replace verified := verified.2
  split at verified
  next => simp at verified
  next authorization stored =>
    simp only [and_eq_true,receiptMatchesAuthorization,decide_eq_true_eq] at verified
    unfold storedAssignmentAuthorization at stored
    simp only [bind_some,guard_some,pure_some] at stored
    obtain ⟨_,present,_,_,_,_,_,_,_,_,_,_,_,rfl⟩ := stored
    rw [present]
    exact congrArg some (by tauto)

section Reports

variable {identity : Identity} {campaign : Campaign} {m : Report} {now : Int} {moved : Transition}

theorem evidenced_receipt {action : AssignmentAction} {receipt : SignedReceipt}
    (joined : campaigns.lookup row.campaignID = some campaign) (none : moved.action = .none)
    (verified : verifyAgentUpdateRootActionReceipt p identity row campaign receipt action now)
    (mem : .receiptStored identity row campaign receipt action now ∈ past) :
    Evidenced p past campaigns (row.reported p m moved (some receipt) now) := by
  refine ⟨fun _ => ⟨none,campaign,action,joined,verified_action verified,?_⟩,?_,?_⟩
  · exact ⟨identity,row,campaign,receipt,now,mem,rfl,rfl,rfl,rfl,verified,rfl⟩
  · intro time stored
    cases stored
  · intro _ stored
    cases stored

theorem reported_same (action : moved.action = row.desiredAction ∨ moved.action = .none) :
    SameEvidence row (row.reported p m moved none now) := ⟨rfl,rfl,rfl,rfl,rfl,rfl,action⟩

theorem reported_health (time : Int) (stored : (row.reported p m moved none now).healthyAt = some time) :
    row.healthyAt = some time ∨ (m.state = .healthy ∧ time = now) := by
  have column : (row.reported p m moved none now).healthyAt =
      if m.state = .healthy ∧ row.healthyAt.isNone then some now else row.healthyAt := rfl
  rw [column] at stored
  split_ifs at stored with fresh
  · exact .inr ⟨fresh.1,(Option.some.inj stored).symm⟩
  · exact .inl stored

theorem evidenced_plain (evidenced : Evidenced p past campaigns row)
    (action : moved.action = row.desiredAction ∨ moved.action = .none) (unhealthy : m.state ≠ .healthy) :
    Evidenced p past campaigns (row.reported p m moved none now) := by
  refine evidenced.same (reported_same action) fun time stored => ?_
  rcases reported_health time stored with old | new
  · exact .inl old
  · exact absurd new.1 unhealthy

theorem evidenced_reported {receipt : Option SignedReceipt} (evidenced : Evidenced p past campaigns row)
    (joined : campaigns.lookup row.campaignID = some campaign)
    (move : ReportMove p identity row campaign m now receipt moved)
    (seen : ∀ event ∈ reportEvents identity row campaign m receipt now, event ∈ past) :
    Evidenced p past campaigns (row.reported p m moved receipt now) := by
  cases move with
  | staging state => exact evidenced_plain evidenced (.inl rfl) (by simp [state])
  | staged state | stageFailed state | blocked state => exact evidenced_plain evidenced (.inr rfl) (by simp [state])
  | activated _ state _ _ verified =>
    refine evidenced_receipt joined rfl verified (seen _ ?_)
    simp [reportEvents,rootAction_activated state]
  | rolledBack _ state _ _ verified =>
    refine evidenced_receipt joined rfl verified (seen _ ?_)
    simp [reportEvents,rootAction_rolledBack state]
  | healthy state =>
    refine evidenced.same (reported_same (.inl rfl)) fun time stored => ?_
    rcases reported_health time stored with old | ⟨_,rfl⟩
    · exact .inl old
    · refine .inr (seen _ ?_)
      simp [reportEvents,Report.rootAction,state]

end Reports

theorem evidenced_moved (evidenced : Evidenced p past campaigns row) (same : SameEvidence row row')
    (health : row'.healthyAt = row.healthyAt) : Evidenced p past campaigns row' :=
  evidenced.same same fun _ stored => .inl (health.symm.trans stored)

theorem evidenced_step (evidenced : Evidenced p past s.campaigns row) (phase : Phase row)
    (step : RowStep p s row input row' fence events) (seen : ∀ event ∈ events, event ∈ past) :
    Evidenced p past s.campaigns row' := by
  cases step with
  | cordoned _ staged =>
    have unauthorized := (idle_of_early phase (.inr (.inr staged))).2.2
    exact evidenced_bare unauthorized.completedAt unauthorized.freshTunnelAt unauthorized.healthyAt
  | activationAuthorized => exact evidenced_bare rfl rfl rfl
  | reauthorized _ _ _ desired =>
    -- A command is outstanding, so no root result is stored.
    have pending : row.root.completedAt.isSome ≠ true := by
      intro completed
      rw [(evidenced.receipt completed).1] at desired
      cases desired
    exact { evidenced with receipt := fun completed => absurd completed pending }
  | reported _ _ _ _ _ _ _ joined evidence accepted =>
    exact evidenced_reported evidenced joined (report_move evidence accepted) seen
  | tunnel _ accepts =>
    simp only [acceptsTunnel,and_eq_true,decide_eq_true_eq,Option.any_eq_true] at accepts
    obtain ⟨completedAt,completed,before⟩ := accepts.1.1.2
    refine ⟨fun done => ?_,fun time stored => ?_,evidenced.health⟩
    · obtain ⟨desired,campaign,action,found,authorized,verified⟩ := evidenced.receipt done
      exact ⟨desired,campaign,action,found,authorized,verified⟩
    · cases stored
      exact ⟨completedAt,completed,before⟩
  | stageReleased _ pending =>
    have unauthorized := (idle_of_early phase (.inl pending)).2.2
    exact evidenced_bare unauthorized.completedAt unauthorized.freshTunnelAt unauthorized.healthyAt
  | _ => exact evidenced_moved evidenced ⟨rfl,rfl,rfl,rfl,rfl,rfl,by simp [drainTimedOut,
      drainUnwound,evidenceTimedOut,recovered,completed,
      stageTimedOut,rootActionTimedOut]⟩ rfl

theorem evidenced_change (evidenced : Evidenced p past campaigns row) (phase : Phase row)
    (change : CampaignChange) (now : Int) : Evidenced p past campaigns (change.row now row) :=
  change_cases phase change now evidenced (evidenced_moved evidenced ⟨rfl,rfl,rfl,rfl,rfl,rfl,.inl rfl⟩ rfl)
    (fun _ => evidenced_moved evidenced ⟨rfl,rfl,rfl,rfl,rfl,rfl,.inl rfl⟩ rfl)
    (fun unauthorized _ => evidenced_bare unauthorized.completedAt unauthorized.freshTunnelAt unauthorized.healthyAt)
    fun _ => evidenced_bare rfl rfl rfl

/-- The state and the events so far, with the origin of all evidence. -/
structure Recorded (p : Primitives) (past : List Event) (s : System) : Prop where
  consistent : Consistent s
  evidenced : ∀ id row, s.assignments.lookup id = some row → Evidenced p past s.campaigns row

theorem recorded_initial : Recorded p [] initial := by
  refine ⟨consistent_initial,fun id row stored => ?_⟩
  simp [initial] at stored

theorem Recorded.step (recorded : Recorded p past s) (ok : step p s input = some (next,events)) :
    Recorded p (past ++ events) next := by
  have outcome := recorded.consistent.outcome ok
  refine ⟨recorded.consistent.step ok,fun id row' found => ?_⟩
  rcases recorded.consistent.origin outcome found with ⟨row,stored,moved⟩ | ⟨_,_,_,_,_,_,_,_,_,_,rfl⟩
  · have before := (recorded.evidenced id row stored).mono events fun c found => ⟨c,found,rfl⟩
    have phase := recorded.consistent.phases id row stored
    have after : Evidenced p (past ++ events) s.campaigns row' := by
      cases moved with
      | stays => exact before
      | step _ _ _ step => exact evidenced_step before phase step fun _ mem => mem_append_right _ mem
      | changed change now => exact evidenced_change before phase change now
      | retried _ kind => cases kind <;> exact evidenced_bare rfl rfl rfl
    have kept := after.mono [] fun c found =>
      outcome.carried.targets row'.campaignID c
        (by rw [moved.key.2.1]; exact (recorded.consistent.bounded id row stored).2) found
    rwa [append_nil] at kept
  · exact evidenced_bare rfl rfl rfl

theorem recorded_run {inputs : List Input}
    (reached : run (step p) initial inputs = some (s,past)) : Recorded p past s := by
  have kept : Recorded p ([] ++ past) s :=
    run_history (fun _ _ _ _ _ recorded _ ok => recorded.step ok) recorded_initial
      (meets_true _ _) reached
  exact kept

theorem complete_evidence {conn : Option Conn} (complete : evidenceComplete row conn) :
    ∃ tunnel, conn = some tunnel ∧ row.freshTunnelAt = some tunnel.connectedAt ∧
      tunnel.build.version = row.observed.version ∧ tunnel.build.commit = row.observed.commit := by
  obtain ⟨tunnel,here,matched⟩ := (Option.any_eq_true _ _).mp complete
  simp only [and_eq_true,decide_eq_true_eq] at matched
  obtain ⟨⟨⟨⟨⟨fresh,_⟩,version⟩,commit⟩,observedVersion⟩,observedCommit⟩ := matched
  exact ⟨tunnel,here,fresh,version.trans observedVersion.symm,commit.trans observedCommit.symm⟩

/-- The current tunnels connected while the server's local time was not ahead of UTC. -/
def NotAhead (p : Primitives) (s : System) : Prop := ∀ agent conn, s.hub.lookup agent = some conn → p.zone conn.connectedAt ≤ 0

theorem lt_of_completedBefore {completedAt connectedAt : Int} (zone : p.zone connectedAt ≤ 0)
    (before : completedBefore p completedAt connectedAt) : completedAt < connectedAt := by
  simp only [completedBefore,or_eq_true,and_eq_true,decide_eq_true_eq] at before
  omega

section

variable (recorded : Recorded p past s) (stored : s.assignments.lookup row.id = some row) (zone : NotAhead p s)
include recorded stored zone

theorem Recorded.success {campaign : Campaign} (joined : s.campaigns.lookup row.campaignID = some campaign)
    (succeeds : maySucceed row campaign (s.hub.lookup row.agentID) now) :
    MaySucceed p past s row now := by
  have evidenced := recorded.evidenced row.id row stored
  simp only [maySucceed,and_eq_true,decide_eq_true_eq] at succeeds
  obtain ⟨⟨⟨⟨⟨⟨⟨⟨⟨⟨⟨⟨⟨⟨running,activation⟩,_⟩,_⟩,completed⟩,healthy⟩,complete⟩,_⟩,_⟩,_⟩,_⟩,_⟩,version⟩,commit⟩,dwell⟩ :=
    succeeds
  obtain ⟨conn,here,fresh,tunnelVersion,tunnelCommit⟩ := complete_evidence complete
  obtain ⟨healthyAt,healthy⟩ := Option.isSome_iff_exists.mp healthy
  obtain ⟨completedAt,completion,after⟩ := evidenced.tunnel _ fresh
  have after := lt_of_completedBefore (zone _ _ here) after
  obtain ⟨_,_,_,found,authorized,verified⟩ := evidenced.receipt completed
  cases joined.symm.trans found
  cases activation.symm.trans authorized
  refine ⟨campaign,conn,completedAt,healthyAt,stored,joined,here,?_⟩
  refine ⟨running,activation,verified,completion,after,?_,evidenced.health _ healthy,?_⟩
  · rw [← version,← commit,← tunnelVersion,← tunnelCommit]
  · simp only [dwellStartedAt,healthy,fresh,Option.getD_some] at dwell
    omega

theorem Recorded.recovery
    (recovers : rollbackRecovered row (s.hub.lookup row.agentID)) : MayRecover p past s row := by
  have evidenced := recorded.evidenced row.id row stored
  simp only [rollbackRecovered,and_eq_true,decide_eq_true_eq] at recovers
  obtain ⟨⟨⟨⟨rollback,_⟩,_⟩,completed⟩,complete⟩ := recovers
  obtain ⟨conn,here,fresh,_,_⟩ := complete_evidence complete
  obtain ⟨completedAt,completion,after⟩ := evidenced.tunnel _ fresh
  obtain ⟨_,campaign,_,found,authorized,verified⟩ := evidenced.receipt completed
  cases rollback.symm.trans authorized
  exact ⟨campaign,conn,completedAt,stored,found,here,rollback,verified,completion,fresh,lt_of_completedBefore (zone _ _ here) after⟩

end

theorem moved_succeeded (moved : Moved p s row input row' events) (before : row.state ≠ .succeeded)
    (after : row'.state = .succeeded) : ∃ campaign now, s.campaigns.lookup row.campaignID = some campaign ∧
      maySucceed row campaign (s.hub.lookup row.agentID) now ∧ input = .reconcile row.agentID now := by
  cases moved with
  | stays => exact absurd after before
  | changed change now =>
    cases change <;> simp only [CampaignChange.row,pause,resume,cancel] at after <;> split_ifs at after <;>
      first | exact absurd after before | cases after
  | retried _ kind => cases kind <;> cases after
  | step _ _ _ step =>
    cases step with
    | succeeded campaign now _ joined succeeds => exact ⟨campaign,now,joined,succeeds,rfl⟩
    | reported _ _ _ _ _ next _ _ evidence accepted =>
      have state : next.state = .succeeded := after
      cases report_move evidence accepted <;> cases state
    | reauthorized | tunnel | stageReleased | activationAuthorized => exact absurd after before
    | _ => cases after

/-- While local time is not ahead of UTC, an assignment becomes succeeded only when the
reconciler finds, for the row as it is stored then: a receipt verified for the current authorization against the
campaign target, the current tunnel connected after it with exactly the target
build, an accepted health report of the current generation, and the dwell time
elapsed since the latest of them. -/
theorem success_needs_evidence (p : Primitives) (inputs : List Input) (s : System) (past : List Event)
    (reached : run (step p) initial inputs = some (s,past)) (zone : NotAhead p s)
    (input : Input) (next : System) (events : List Event) (ok : step p s input = some (next,events))
    (id : Nat) (row' : Assignment) (found : next.assignments.lookup id = some row')
    (succeeded : row'.state = .succeeded)
    (pending : ∀ row, s.assignments.lookup id = some row → row.state ≠ .succeeded) :
    ∃ row now, row.id = id ∧ input = .reconcile row.agentID now ∧ MaySucceed p past s row now := by
  have recorded := recorded_run reached
  rcases recorded.consistent.origin (recorded.consistent.outcome ok) found with
    ⟨row,stored,moved⟩ | ⟨_,_,_,_,_,_,_,_,_,_,rfl⟩
  · have key := recorded.consistent.keyed id row stored
    obtain ⟨_,now,joined,succeeds,asked⟩ := moved_succeeded moved (pending row stored) succeeded
    refine ⟨row,now,key,asked,?_⟩
    rw [← key] at stored
    exact recorded.success stored zone joined succeeds
  · cases succeeded

def trusting : Primitives where
  sha256 := fun _ => "digest"
  verify := fun _ _ _ => true
  sign := fun _ _ => some (replicate 64 0)
  authorizationPayload := fun _ => some [1]
  receiptPayload := fun _ => some [2]
  reportPayload := fun _ => [3]
  agentPublicIDPattern := fun _ => true
  hexDigestPattern := fun _ => true
  boundedString := fun text _ => text
  zone := fun _ => 0

def exampleIdentity : Identity := ⟨1,"a","updater",[],"digest",replicate 32 0,"linux","amd64","authority",1,1,true,0,0,0⟩

def exampleTarget : Target := ⟨"v2","c2","manifest",2,1,[⟨"linux","amd64","agent",10,"binary"⟩]⟩

def exampleReceipt : SignedReceipt where
  value := ⟨"a",1,1,1,.activate,1,"digest",[7],"authority",1,"digest",1,0,.release,"manifest","v2","c2",2,1,"linux",
    "amd64","agent",10,"binary"⟩
  canonicalPayload := [2]
  signature := replicate 64 0

def exampleReport (assignment : Nat) (counter : Int) (state : ReportState) (receipt : Option SignedReceipt) : Report :=
  ⟨"a",counter,replicate 64 0,assignment,1,state,"manifest","binary","v2","c2","","",0,[],[],receipt⟩

def exampleCampaign : List Input := [.restart (some ⟨"authority",replicate 32 0,1⟩) "server",.enroll exampleIdentity,
    .createCampaign exampleTarget ⟨1,1,1,1,10000⟩ [1] 0]

def exampleAuthorized : List Input :=
  exampleCampaign ++ [.report (exampleReport 1 1 .staged none) 0,.cordon 1 [] 0,.authorizeDrained 1 true [] [7] 0]

def exampleProving : List Input :=
  exampleAuthorized ++ [.report (exampleReport 1 2 .activated (some exampleReceipt)) 0,.connect 1 ⟨5,⟨"v2","c2"⟩⟩,
    .freshTunnel 1,.report (exampleReport 1 3 .healthy none) 7]

/-- Ten seconds after the health report the assignment succeeds. -/
theorem success_needs_evidence_rollout :
    ∃ s past row now, run (step trusting) initial exampleProving = some (s,past) ∧
      row.id = 1 ∧ .reconcile 1 10000000007 = Input.reconcile row.agentID now ∧ MaySucceed trusting past s row now := by
  obtain ⟨row,now,evidence⟩ := success_needs_evidence trusting exampleProving _ _ rfl (fun _ _ _ => le_refl _)
    (.reconcile 1 10000000007) _ _ rfl 1 _ rfl rfl fun _ stored succeeded => by
      cases stored
      cases succeeded
  exact ⟨_,_,row,now,rfl,evidence⟩

/-- A server two hours ahead of UTC. -/
def eastern : Primitives := { trusting with zone := fun _ => 7200000000000 }

/-- A tunnel that connected before the activation was reported, and was registered after it. -/
def exampleOlder : List Input :=
  exampleAuthorized ++ .report (exampleReport 1 2 .activated (some exampleReceipt)) 6 :: exampleProving.drop 7

/-- The assignment succeeds over the tunnel that is older than its activation. -/
theorem older_tunnel_succeeds : ∃ s past next row events, run (step eastern) initial exampleOlder = some (s,past) ∧
    step eastern s (.reconcile 1 7210000000007) = some (next,events) ∧ s.assignments.lookup 1 = some row ∧
      (next.assignments.lookup 1).map (·.state) = some .succeeded ∧ ¬ ∃ now, MaySucceed eastern past s row now := by
  refine ⟨_,_,_,_,_,rfl,rfl,rfl,rfl,?_⟩
  rintro ⟨_,_,conn,completedAt,_,_,_,here,evidence⟩
  cases here
  cases evidence.completion
  exact absurd evidence.tunnel (by decide)

end P2pstream.AgentUpdateEvidence
