import P2pstream.AgentUpdateCounters

/-! Inversion of the update control plane. Every step moves assignment rows by the
judgment `RowStep` and the live cordon set by the fence that goes with the move.
-/
namespace P2pstream.AgentUpdateSteps
open Library Kernel.AgentUpdates Checks Table AList List System
open AgentUpdateCounters

/-- The campaign of the row lets it be cordoned: its cohort may activate and the campaign has room
for one more. -/
def Admitted (s : System) (row : Assignment) : Prop := ∃ campaign size, s.campaigns.lookup row.campaignID = some campaign ∧
    s.agentUpdateCohortEligible row campaign.policy = .eligible size ∧
    (s.unavailableInCampaign row.campaignID : Int) < min campaign.policy.maxUnavailable size

def Released (s : System) (row : Assignment) : Prop := ∃ campaign, s.campaigns.lookup row.campaignID = some campaign ∧
    ∃ first start stop, first < (s.campaignAssignments row.campaignID).length ∧
      stageCohort campaign.policy (s.campaignAssignments row.campaignID).length first = (start,stop) ∧
      ((s.campaignAssignments row.campaignID).take start.toNat).all (·.state = .succeeded) = true ∧
      row ∈ ((s.campaignAssignments row.campaignID).take stop.toNat).drop start.toNat

/-- The agent whose active assignment a transaction asks for. -/
def attends : Input → Option Nat
  | .cordon agent .. | .authorizeDrained agent .. | .ensureAuthorization agent .. | .reconcile agent _ => some agent
  | _ => none

/-- What a transaction on one row does to it, the fence it publishes for the row's
agent, and the events it shows. -/
inductive RowStep (p : Primitives) (s : System) (row : Assignment) :
    Input → Assignment → Option Bool → List Event → Prop where
  | cordoned {blockers asked} (now) (staged : row.state = .staged) (uncordoned : row.cordoned = false)
      (admitted : Admitted s row) :
      RowStep p s row (.cordon row.agentID blockers asked) (row.cordon now) (some true) []
  | drainTimedOut {drained blockers nonce asked} (now) (drains : row.draining = true) :
      RowStep p s row (.authorizeDrained row.agentID drained blockers nonce asked) (row.drainTimedOut now) (some false) []
  | drainUnwound {drained blockers nonce asked} (detail now) (drains : row.draining = true) :
      RowStep p s row (.authorizeDrained row.agentID drained blockers nonce asked) (row.drainUnwound detail now)
        (some false) []
  | activationAuthorized {blockers nonce asked} (authorization now) (drains : row.draining = true) :
      RowStep p s row (.authorizeDrained row.agentID true blockers nonce asked)
        (row.activationAuthorized authorization now) none [.authorized row authorization]
  | reauthorized {number generation nonce asked} (authorization action now) (desired : desiredActionAuth row.desiredAction = some action)
      (signed : authorization.action = some action) :
      RowStep p s row (.ensureAuthorization row.agentID number generation row.desiredAction nonce asked)
        (row.reauthorized authorization now) none [.authorized row authorization]
  | reported (identity campaign artifact m receipt next now)
      (joined : s.campaigns.lookup row.campaignID = some campaign)
      (evidence : reportEvidence p identity row campaign m now = some receipt)
      (accepted : reportTransition row campaign artifact m = some next) :
      RowStep p s row (.report m now) (row.reported p m next receipt now) (if next.cordoned then none else some false)
        (reportEvents identity row campaign m receipt now)
  | evidenceTimedOut (conn failureCode now written) (desired : row.desiredAction = .none)
      (overdue : evidenceOverdue row conn now = true) :
      RowStep p s row (.reconcile row.agentID now) (row.evidenceTimedOut failureCode written) none []
  | recovered (campaign now) (desired : row.desiredAction = .none)
      (joined : s.campaigns.lookup row.campaignID = some campaign)
      (recovers : rollbackRecovered row (s.hub.lookup row.agentID) = true) :
      RowStep p s row (.reconcile row.agentID now) (row.recovered now) (some false) [.recovered row now]
  | succeeded (campaign now) (desired : row.desiredAction = .none)
      (joined : s.campaigns.lookup row.campaignID = some campaign)
      (succeeds : maySucceed row campaign (s.hub.lookup row.agentID) now = true) :
      RowStep p s row (.reconcile row.agentID now) (row.completed now) (some false) [.succeeded row now]
  | tunnel {agent : Nat} (conn : Conn) (accepts : row.acceptsTunnel p conn.connectedAt = true) :
      RowStep p s row (.freshTunnel agent) (row.tunnelRecorded conn.connectedAt conn.build) none []
  | stageTimedOut {item asked} (now) (uncordoned : row.cordoned = false)
      (state : row.state = .pending ∨ row.state = .staging) :
      RowStep p s row (.blockStage item asked) (row.stageTimedOut now) none []
  | rootActionTimedOut {item asked} (now) (cordoned : row.cordoned = true)
      (desired : row.desiredAction = .activate ∨ row.desiredAction = .rollback) :
      RowStep p s row (.blockRootAction item asked) (row.rootActionTimedOut now) none []
  | stageReleased {asked} (now) (state : row.state = .pending) (desired : row.desiredAction = .none)
      (released : Released s row) :
      RowStep p s row (.releaseCohort row.campaignID asked) (row.stageReleased now) none []

def fenced (agent : Nat) (cordons : List Nat) : Option Bool → List Nat
  | some true => cordons.insert agent
  | some false => cordons.filter (· ≠ agent)
  | none => cordons

def published (cordons : List Nat) (rows : List (Nat × Bool)) : List Nat :=
  rows.foldl (fun cordons row => fenced row.1 cordons (some row.2)) cordons

/-- What a step does to the assignment table and the live cordon set. -/
inductive Change (p : Primitives) (s : System) : Input → System → List Event → Prop where
  | same (input next) (table : next.assignments = s.assignments) (cordons : next.cordons = s.cordons) :
      Change p s input next []
  | one (input : Input) (next : System) (row row' : Assignment) (fence : Option Bool) (events : List Event)
      (stored : s.assignments.lookup row.id = some row) (live : row.active = true ∨ fence = none)
      (step : RowStep p s row input row' fence events) (table : next.assignments = s.assignments.insert row.id row')
      (cordons : next.cordons = fenced row.agentID s.cordons fence)
      (asked : ∀ agent, attends input = some agent → ∃ campaign, s.activeAgentUpdateAssignment agent = some (row,campaign)) :
      Change p s input next events
  | missed (input next row) (stored : s.assignments.lookup row.id = some row) (staged : row.state = .staged)
      (cordoned : row.cordoned = true) (table : next.assignments = s.assignments) : Change p s input next []
  | rewritten (input : Input) (next : System) (f : Assignment → Assignment)
      (moves : ∀ row ∈ values s.assignments, f row = row ∨ RowStep p s row input (f row) none [])
      (table : next.assignments = mapValues f s.assignments) (cordons : next.cordons = s.cordons)
      (aside : attends input = none) : Change p s input next []
  | changed (next campaign expectedGeneration change now)
      (table : next.assignments = (s.changeRows campaign (change.row now)).assignments)
      (cordons : next.cordons = if change = .resume then s.cordons
        else published s.cordons (next.campaignCordons campaign)) :
      Change p s (.changeCampaign campaign expectedGeneration change now) next []
  | retried {generation given} (next key campaign ids now rows) (named : s.retries key campaign ids = some rows)
      (unique : next.oneActivePerAgent = true)
      (table : next.assignments = mapValues (retryRows now campaign.state ids) s.assignments)
      (cordons : next.cordons = published s.cordons (rows.map fun item => (item.1.agentID,item.2 = .rollback))) :
      Change p s (.retry key generation given now) next []
  | created {target given named} (next canaries now agents) (distinct : agents.Nodup)
      (idle : ∀ agent ∈ agents, s.activeAssignments agent = [])
      (table : next.assignments = (s.insertAssignments s.nextCampaign canaries now 0 agents).assignments)
      (counter : next.nextAssignment = s.nextAssignment + agents.length)
      (campaign : next.nextCampaign = s.nextCampaign + 1) (cordons : next.cordons = s.cordons)
      (policy : ∃ c, next.campaigns.lookup s.nextCampaign = some c ∧ c.policy.canaryCount = canaries) :
      Change p s (.createCampaign target given named now) next []
  | reloaded {authority version} (next) (table : next.assignments = s.assignments)
      (cordons : next.cordons = s.reloadAgentUpdateCordons.cordons) : Change p s (.restart authority version) next []

/-- What no step takes back: counters, and the targets and policies of campaigns. -/
structure Carried (s next : System) : Prop where
  assignments : s.nextAssignment ≤ next.nextAssignment
  campaigns : s.nextCampaign ≤ next.nextCampaign
  targets : ∀ id c, id < s.nextCampaign → s.campaigns.lookup id = some c →
    ∃ c', next.campaigns.lookup id = some c' ∧ c'.target = c.target
  policies : ∀ id c', next.campaigns.lookup id = some c' → (∃ c, s.campaigns.lookup id = some c ∧ c'.policy = c.policy) ∨
      (s.nextCampaign ≤ id ∧ id < next.nextCampaign ∧ ∃ given, normalizeAgentUpdatePolicy given = some c'.policy)

structure Outcome (p : Primitives) (s : System) (input : Input) (next : System) (events : List Event) : Prop where
  change : Change p s input next events
  carried : Carried s next
  identified : Enrolled s → Identified s next input

def Keyed (s : System) : Prop := ∀ id row, s.assignments.lookup id = some row → row.id = id

section Frame

variable (s : System)

theorem pauseRunning_frame (campaign : Nat) (now : Int) :
    (s.pauseRunning campaign now).assignments = s.assignments ∧ (s.pauseRunning campaign now).cordons = s.cordons ∧
      (s.pauseRunning campaign now).identities = s.identities := by
  unfold pauseRunning
  split
  · split <;> exact ⟨rfl,rfl,rfl⟩
  · exact ⟨rfl,rfl,rfl⟩

theorem publishCordons_eq (rows : List (Nat × Bool)) :
    s.publishCordons rows = { s with cordons := published s.cordons rows } := by
  unfold publishCordons published
  induction rows generalizing s with
  | nil => rfl
  | cons row _ ih =>
    rw [foldl_cons,ih]
    obtain ⟨_,cordoned⟩ := row
    cases cordoned <;> rfl

theorem carried_same {s next : System} (campaigns : next.campaigns = s.campaigns)
    (assignments : next.nextAssignment = s.nextAssignment) (counter : next.nextCampaign = s.nextCampaign) :
    Carried s next := by
  refine ⟨assignments.ge,counter.ge,fun id c _ found => ⟨c,?_,rfl⟩,fun id c found => .inl ⟨c,?_,rfl⟩⟩
  · rw [campaigns]
    exact found
  · rw [← campaigns]
    exact found

theorem carried_setAssignment (row : Assignment) : Carried s (s.setAssignment row) := carried_same rfl rfl rfl

theorem carried_setCampaign (key : Nat) (old c : Campaign) (found : s.campaigns.lookup key = some old)
    (target : c.target = old.target) (policy : c.policy = old.policy) : Carried s (s.setCampaign key c) := by
  refine ⟨le_rfl,le_rfl,fun id other _ present => ?_,fun id other present => .inl ?_⟩
  · by_cases same : id = key
    · subst same
      cases found.symm.trans present
      exact ⟨c,lookup_insert _,target⟩
    · exact ⟨other,by rw [← present]; exact lookup_insert_ne same,rfl⟩
  · rcases of_lookup_insert present with ⟨rfl,rfl⟩ | ⟨_,present⟩
    · exact ⟨old,found,policy⟩
    · exact ⟨other,present,rfl⟩

theorem carried_pauseRunning (campaign : Nat) (now : Int) : Carried s (s.pauseRunning campaign now) := by
  unfold pauseRunning
  split
  next c found =>
    split
    · exact carried_setCampaign s campaign c _ found rfl rfl
    · exact carried_same rfl rfl rfl
  · exact carried_same rfl rfl rfl

end Frame

variable {p : Primitives} {s next : System} {events : List Event}

theorem Carried.trans {middle : System} (first : Carried s middle) (second : Carried middle next) : Carried s next := by
  refine ⟨first.assignments.trans second.assignments,first.campaigns.trans second.campaigns,fun id c below found => ?_,
    fun id c found => ?_⟩
  · obtain ⟨c',found',target'⟩ := first.targets id c below found
    obtain ⟨c'',found'',target''⟩ := second.targets id c' (below.trans_le first.campaigns) found'
    exact ⟨c'',found'',target''.trans target'⟩
  · rcases second.policies id c found with ⟨c',found',policy'⟩ | ⟨new,below,normal⟩
    · rw [policy']
      exact (first.policies id c' found').imp_right fun ⟨new,below,normal⟩ =>
        ⟨new,below.trans_le second.campaigns,normal⟩
    · exact .inr ⟨first.campaigns.trans new,below,normal⟩

variable {row row' : Assignment} {agent campaign : Nat} {now : Int} {identity : Identity} {m : Report}

theorem stored_of_mem (keyed : Keyed s) (mem : row ∈ values s.assignments) : s.assignments.lookup row.id = some row := by
  obtain ⟨id,entry⟩ := (mem_values _ _).mp mem
  have found := lookup_of_mem_entries _ _ entry
  rw [keyed id row found]
  exact found

def SameKey (row row' : Assignment) : Prop := row'.id = row.id ∧ row'.campaignID = row.campaignID ∧ row'.agentID = row.agentID

theorem reported_key (row : Assignment) (m : Report) (moved : Transition) (receipt : Option SignedReceipt) (now : Int) :
    SameKey row (row.reported p m moved receipt now) := by
  cases receipt <;> exact ⟨rfl,rfl,rfl⟩

variable {input : Input} {fence : Option Bool} {blockers : List String} {nonce : Bytes} {item : System.MaintenanceItem}
  {expectedGeneration : Int}

theorem RowStep.key (step : RowStep p s row input row' fence events) : SameKey row row' := by
  cases step with
  | reported => exact reported_key ..
  | _ => exact ⟨rfl,rfl,rfl⟩

/-- The row and the campaign found by the query for the active assignment. -/
structure Found (s : System) (agent : Nat) (row : Assignment) (campaign : Campaign) : Prop where
  query : s.activeAgentUpdateAssignment agent = some (row,campaign)
  stored : s.assignments.lookup row.id = some row
  agent : row.agentID = agent
  active : row.active = true
  joined : s.campaigns.lookup row.campaignID = some campaign

theorem active_found (keyed : Keyed s) {campaign : Campaign}
    (query : s.activeAgentUpdateAssignment agent = some (row,campaign)) : Found s agent row campaign := by
  have found := query
  unfold activeAgentUpdateAssignment at found
  split at found
  next only single =>
    simp only [Option.map_eq_some_iff,Prod.mk.injEq] at found
    obtain ⟨_,joined,rfl,rfl⟩ := found
    have mem : only ∈ s.activeAssignments agent := by rw [single]; simp
    simp only [activeAssignments,mem_filter,Bool.and_eq_true,decide_eq_true_eq] at mem
    exact ⟨query,stored_of_mem keyed mem.1,mem.2.1,mem.2.2,joined⟩
  next => simp at found

theorem Carried.pauseRunning (carried : Carried s next) (campaign : Nat) (now : Int) :
    Carried s (next.pauseRunning campaign now) := carried.trans (carried_pauseRunning next campaign now)

theorem Found.outcome {campaign : Campaign} (found : Found s agent row campaign)
    (asks : (attends input).getD agent = agent) (step : RowStep p s row input row' fence events)
    (table : next.assignments = s.assignments.insert row.id row') (cordons : next.cordons = fenced agent s.cordons fence)
    (carried : Carried s next) (identified : Enrolled s → Identified s next input) : Outcome p s input next events := by
  rw [← found.agent] at cordons
  refine ⟨.one _ next row row' fence events found.stored (.inl found.active) step table cordons ?_,carried,identified⟩
  intro _ named
  rw [named,Option.getD_some] at asks
  exact ⟨campaign,asks ▸ found.query⟩

theorem same_outcome (table : next.assignments = s.assignments) (cordons : next.cordons = s.cordons)
    (identities : next.identities = s.identities) (carried : Carried s next) : Outcome p s input next [] :=
  ⟨.same _ next table cordons,carried,kept_identities identities⟩

theorem tryCordon_outcome (keyed : Keyed s)
    (ok : s.tryCordon agent blockers now = some next) : Outcome p s (.cordon agent blockers now) next [] := by
  unfold tryCordon at ok
  split at ok
  next => simp at ok
  next row campaign query =>
    have found := active_found keyed query
    obtain rfl := found.agent
    split at ok
    next ready =>
      split at ok
      next => simp at ok
      next =>
        cases ok
        obtain ⟨table,cordons,identities⟩ := pauseRunning_frame s row.campaignID now
        exact same_outcome table cordons identities (carried_pauseRunning ..)
      next size eligible =>
        split_ifs at ok with room cordoned
        · cases ok
          exact ⟨.missed _ _ row found.stored ready.2.1 cordoned rfl,carried_same rfl rfl rfl,kept_identities rfl⟩
        · cases ok
          have admitted : Admitted s row := ⟨campaign,size,found.joined,eligible,room⟩
          exact found.outcome rfl (.cordoned _ ready.2.1 (by simpa using cordoned) admitted) rfl rfl
            (carried_same rfl rfl rfl) (kept_identities rfl)
    next => simp at ok

theorem Found.paused {campaign : Campaign} (now : Int) (found : Found s agent row campaign)
    (asks : (attends input).getD agent = agent) (step : RowStep p s row input row' fence []) :
    Outcome p s input { (s.setAssignment row').pauseRunning row.campaignID now with
      cordons := fenced agent ((s.setAssignment row').pauseRunning row.campaignID now).cordons fence } [] := by
  obtain ⟨table,cordons,identities⟩ := pauseRunning_frame (s.setAssignment row') row.campaignID now
  refine found.outcome asks step ?_ (congrArg (fenced agent · fence) cordons)
    (((carried_setAssignment s row').pauseRunning _ _).trans (carried_same rfl rfl rfl)) (kept_identities identities)
  rw [← step.key.1]
  exact table

theorem tryAuthorizeDrained_outcome (keyed : Keyed s) {drained : Bool}
    (ok : s.tryAuthorizeDrained p agent drained blockers nonce now = some (next,events)) :
    Outcome p s (.authorizeDrained agent drained blockers nonce now) next events := by
  unfold tryAuthorizeDrained at ok
  split at ok
  next => simp at ok
  next row campaign query =>
    have found := active_found keyed query
    obtain rfl := found.agent
    split_ifs at ok with ready late empty blocked unsigned
    · cases ok
      exact found.paused _ rfl (.drainTimedOut _ ready.1)
    · cases ok
      exact found.paused _ rfl (.drainUnwound _ _ ready.1)
    · simp only [bind_some,pure_pair] at ok
      obtain ⟨_,_,_,enabled,authorization,_,rfl,rfl⟩ := ok
      subst empty
      exact found.outcome rfl (.activationAuthorized authorization _ ready.1) rfl rfl (carried_same rfl rfl rfl)
        (commanded enabled rfl)

theorem ensureAuthorization_outcome (keyed : Keyed s) {assignmentID : Nat} {generation : Int}
    {desired : DesiredAction}
    (ok : s.ensureAgentUpdateAssignmentAuthorization p agent assignmentID generation desired nonce now = some (next,events)) :
    Outcome p s (.ensureAuthorization agent assignmentID generation desired nonce now) next events := by
  unfold ensureAgentUpdateAssignmentAuthorization at ok
  simp only [bind_some,Option.pure_def,guard_some] at ok
  obtain ⟨⟨row,_⟩,query,⟨_,_,rfl⟩,action,privileged,_,_,enabled,ok⟩ := ok
  have found := active_found keyed query
  obtain rfl := found.agent
  split_ifs at ok
  · cases ok
    exact same_outcome rfl rfl rfl (carried_same rfl rfl rfl)
  · simp only [bind_some,Option.some.injEq,Prod.mk.injEq] at ok
    obtain ⟨_,_,authorization,issued,rfl,rfl⟩ := ok
    have signed : authorization.action = some action := by
      simp only [issueAssignmentAuthorization,bind_some,pure_some] at issued
      obtain ⟨_,_,_,_,_,_,_,_,_,_,rfl⟩ := issued
      rfl
    exact found.outcome rfl (.reauthorized authorization action _ privileged signed) rfl rfl (carried_same rfl rfl rfl)
      (commanded enabled rfl)

theorem reconcile_outcome (keyed : Keyed s)
    (ok : s.reconcileAgentUpdateSuccess agent now = some (next,events)) : Outcome p s (.reconcile agent now) next events := by
  unfold reconcileAgentUpdateSuccess at ok
  split at ok
  next => simp at ok
  next row campaign query =>
    have found := active_found keyed query
    obtain rfl := found.agent
    dsimp only at ok
    split_ifs at ok with desired overdue recovers succeeds
    · cases ok
      exact found.paused _ rfl (.evidenceTimedOut _ _ now _ (not_not.mp desired) overdue)
    · cases ok
      exact found.outcome rfl (.recovered campaign now (not_not.mp desired) found.joined recovers) rfl rfl
        (carried_same rfl rfl rfl) (kept_identities rfl)
    · cases ok
      exact found.outcome rfl (.succeeded campaign now (not_not.mp desired) found.joined succeeds.1) rfl rfl
        (carried_same rfl rfl rfl) (kept_identities rfl)

theorem settleReport_frame (s : System) (row : Assignment) (m : Report) (moved : Transition) (now : Int) :
    (s.settleReport row m moved now).assignments = s.assignments ∧
    (s.settleReport row m moved now).cordons = fenced row.agentID s.cordons (if moved.cordoned then none else some false) ∧
    (s.settleReport row m moved now).identities = s.identities ∧ Carried s (s.settleReport row m moved now) := by
  obtain ⟨table,cordons,identities⟩ := pauseRunning_frame s row.campaignID now
  have carried := carried_pauseRunning s row.campaignID now
  unfold settleReport
  split_ifs
  all_goals
    refine ⟨?_,?_,?_,?_⟩
    · first | rfl | exact table
    · first | rfl | exact cordons | exact congrArg (filter _) cordons
    · first | rfl | exact identities
    · first | exact carried_same rfl rfl rfl | exact carried.trans (carried_same rfl rfl rfl)

theorem silent {outcome : Option System} (ok : quietly outcome = some (next,events)) : outcome = some next ∧ events = [] := by
  obtain ⟨_,value,equal⟩ := Option.map_eq_some_iff.mp ok
  cases equal
  exact ⟨value,rfl⟩

theorem quiet_outcome {outcome : Option System} (each : ∀ {left}, outcome = some left → Outcome p s input left [])
    (ok : quietly outcome = some (next,events)) : Outcome p s input next events := by
  obtain ⟨taken,rfl⟩ := silent ok
  exact each taken

structure Accepted (p : Primitives) (s : System) (identity : Identity) (m : Report) (now : Int) (row : Assignment)
    (campaign : Campaign) (next : System) (events : List Event) : Prop where
  found : s.activeAgentUpdateAssignment identity.agentID = some (row,campaign)
  id : row.id = m.assignmentID
  generation : row.generation = m.generation
  written : ∃ artifact receipt moved counted, reportEvidence p identity row campaign m now = some receipt ∧
    reportTransition row campaign artifact m = some moved ∧ consumeCounters identity m receipt = some counted ∧
    next = (((s.setIdentity counted).setAssignment (row.reported p m moved receipt now)).settleReport row m moved now) ∧
    events = reportEvents identity row campaign m receipt now

/-- A report is acknowledged, or accepted for the active row at its generation. -/
inductive Reported (p : Primitives) (s : System) (identity : Identity) (m : Report) (now : Int) :
    Option (Assignment × Campaign) → System → List Event → Prop where
  | acknowledged (counter : identity.lastCounter ≤ m.counter) :
      Reported p s identity m now none (s.setIdentity { identity with lastCounter := m.counter }) []
  | accepted {row : Assignment} {campaign : Campaign} {next : System} {events : List Event}
      (accepted : Accepted p s identity m now row campaign next events) :
      Reported p s identity m now (some (row,campaign)) next events

theorem acknowledge_reported (now : Int)
    (ok : (s.acknowledge identity m).map (fun left => (left,([] : List Event))) = some (next,events)) :
    Reported p s identity m now none next events := by
  obtain ⟨_,acknowledged,same⟩ := Option.map_eq_some_iff.mp ok
  cases same
  unfold acknowledge at acknowledged
  split_ifs at acknowledged with below
  cases acknowledged
  exact .acknowledged (by omega)

theorem acknowledgeSupersededRow_reported (now : Int)
    (ok : (s.acknowledgeSupersededRow identity m row).map (fun left => (left,([] : List Event))) = some (next,events)) :
    Reported p s identity m now none next events := by
  unfold acknowledgeSupersededRow at ok
  split_ifs at ok
  · cases ok
  · exact acknowledge_reported now ok

theorem acknowledgeSuperseded_reported (now : Int)
    (ok : (s.acknowledgeSuperseded identity m).map (fun left => (left,([] : List Event))) = some (next,events)) :
    Reported p s identity m now none next events := by
  obtain ⟨left,acknowledged,same⟩ := Option.map_eq_some_iff.mp ok
  unfold acknowledgeSuperseded at acknowledged
  simp only [bind_some,guard_some] at acknowledged
  obtain ⟨_,_,_,taken⟩ := acknowledged
  exact acknowledgeSupersededRow_reported now (Option.map_eq_some_iff.mpr ⟨left,taken,same⟩)

theorem report_reported (ok : s.reportAgentUpdate p m now = some (next,events)) :
    ∃ identity, s.authenticateAgentUpdaterRequest p m = some identity ∧
      Reported p s identity m now (s.fresh p identity m) next events := by
  unfold reportAgentUpdate at ok
  simp only [bind_some,guard_some] at ok
  obtain ⟨_,_,_,identity,authenticated,_,ok⟩ := ok
  refine ⟨identity,authenticated,?_⟩
  unfold fresh
  split at ok
  next idle =>
    have none : s.activeAgentUpdateAssignment identity.agentID = none := by
      simp [activeAgentUpdateAssignment,idle]
    rw [none]
    exact acknowledgeSuperseded_reported now ok
  next =>
    simp only [bind_some] at ok
    obtain ⟨⟨_,_⟩,query,ok⟩ := ok
    rw [query]
    simp only [Option.bind_eq_bind,Option.bind_some,guard]
    split_ifs at ok with other superseded committed repeated
    · rw [if_neg (fun named => other named.1)]
      exact acknowledgeSuperseded_reported now ok
    · rw [if_neg (fun named => superseded named.2.1)]
      exact acknowledgeSupersededRow_reported now ok
    · rw [if_neg (fun named => by simp [committed] at named)]
      exact acknowledge_reported now ok
    · rw [if_neg (fun named => named.2.2.2 repeated)]
      exact acknowledge_reported now ok
    · rw [if_pos ⟨not_not.mp other,not_not.mp superseded,by simpa using committed,repeated⟩]
      unfold acceptReport at ok
      simp only [bind_some,pure_pair] at ok
      obtain ⟨artifact,_,receipt,evidence,moved,allowed,counted,consumed,rfl,rfl⟩ := ok
      exact .accepted ⟨query,not_not.mp other,not_not.mp superseded,artifact,receipt,moved,counted,evidence,allowed,consumed,
        rfl,rfl⟩

theorem accepted_counted {campaign : Campaign} (stored : s.identities.lookup identity.agentID = some identity)
    (accepted : Accepted p s identity m now row campaign next events) : Counted s next := by
  obtain ⟨_,_,_,counted,_,_,consumed,rfl,_⟩ := accepted.written
  exact .risen identity counted stored (consumeCounters_spec consumed).2.1 (settleReport_frame ..).2.2.1

theorem report_outcome (keyed : Keyed s) (ok : s.reportAgentUpdate p m now = some (next,events)) :
    Outcome p s (.report m now) next events := by
  obtain ⟨identity,authenticated,reported⟩ := report_reported ok
  generalize s.fresh p identity m = named at reported
  have stored (enrolled : Enrolled s) := authenticated_stored enrolled authenticated
  cases reported with
  | acknowledged counter =>
    exact ⟨.same _ _ rfl rfl,carried_same rfl rfl rfl,fun enrolled => .counted _ (acknowledged_counted (stored enrolled) counter)⟩
  | @accepted row campaign _ _ accepted =>
    have counts (enrolled : Enrolled s) := accepted_counted (stored enrolled) accepted
    obtain ⟨artifact,receipt,moved,counted,evidence,allowed,_,rfl,rfl⟩ := accepted.written
    have found := active_found keyed accepted.found
    have carried : Carried s ((s.setIdentity counted).setAssignment (row.reported p m moved receipt now)) :=
      carried_same rfl rfl rfl
    have frame := settleReport_frame ((s.setIdentity counted).setAssignment (row.reported p m moved receipt now)) row m
      moved now
    refine found.outcome rfl (.reported identity campaign artifact m receipt moved now found.joined evidence allowed) ?_ ?_
      (carried.trans frame.2.2.2) fun enrolled => .counted _ (counts enrolled)
    · rw [frame.1,setAssignment,(reported_key row m moved receipt now).1]
      rfl
    · rw [← found.agent]
      exact frame.2.1

theorem blocked_outcome (keyed : Keyed s) {id : Nat} (aside : attends input = none)
    (stored : s.assignments.lookup id = some row) (step : RowStep p s row input row' none []) :
    Outcome p s input ((s.setAssignment row').pauseRunning campaign now) [] := by
  obtain ⟨table,cordons,identities⟩ := pauseRunning_frame (s.setAssignment row') campaign now
  refine ⟨.one _ _ row row' none [] ?_ (.inr rfl) step ?_ cordons (by simp [aside]),
    (carried_setAssignment s row').pauseRunning _ _,kept_identities identities⟩
  · rw [keyed id row stored]
    exact stored
  · rw [← step.key.1]
    exact table

theorem blockStage_outcome (keyed : Keyed s)
    (ok : s.blockTimedOutAgentUpdateStage item now = some next) : Outcome p s (.blockStage item now) next [] := by
  unfold blockTimedOutAgentUpdateStage at ok
  simp only [bind_some,guard_some,pure_some] at ok
  obtain ⟨due,row,stored,current,rfl⟩ := ok
  refine blocked_outcome keyed rfl stored (.stageTimedOut now current.2.2.1 ?_)
  rw [current.1]
  exact due.2.2.2.1

theorem blockRootAction_outcome (keyed : Keyed s)
    (ok : s.blockTimedOutAgentUpdateRootAction item now = some next) : Outcome p s (.blockRootAction item now) next [] := by
  unfold blockTimedOutAgentUpdateRootAction at ok
  simp only [bind_some,guard_some,pure_some] at ok
  obtain ⟨due,row,stored,current,rfl⟩ := ok
  refine blocked_outcome keyed rfl stored (.rootActionTimedOut now current.2.1 ?_)
  rw [current.1]
  exact due.2.1

theorem mapAssignments_outcome {f : Assignment → Assignment} (aside : attends input = none)
    (moves : ∀ row ∈ values s.assignments, f row = row ∨ RowStep p s row input (f row) none []) :
    Outcome p s input (s.mapAssignments f) [] :=
  ⟨.rewritten _ _ f moves rfl rfl aside,carried_same rfl rfl rfl,kept_identities rfl⟩

theorem freshTunnel_outcome (ok : s.persistAgentUpdateFreshTunnel p agent = some next) :
    Outcome p s (.freshTunnel agent) next [] := by
  obtain ⟨conn,_,rfl⟩ := Option.map_eq_some_iff.mp ok
  apply mapAssignments_outcome rfl
  intro row _
  split_ifs with accepts
  · exact .inr (.tunnel conn accepts.2)
  · exact .inl rfl

theorem mem_campaignAssignments (mem : row ∈ s.campaignAssignments campaign) :
    row ∈ values s.assignments ∧ row.campaignID = campaign := by
  unfold campaignAssignments at mem
  rw [mem_insertionSort,mem_filter] at mem
  exact ⟨mem.1,by simpa using mem.2⟩

theorem mem_of_named (keyed : Keyed s) {rows : List Assignment} (mem : row ∈ values s.assignments)
    (named : row.id ∈ rows.map (·.id)) (known : ∀ other ∈ rows, other ∈ values s.assignments) : row ∈ rows := by
  obtain ⟨other,listed,same⟩ := mem_map.mp named
  have first := stored_of_mem keyed (known other listed)
  rw [same,stored_of_mem keyed mem] at first
  rwa [Option.some.inj first]

theorem releaseCohort_outcome (keyed : Keyed s)
    (ok : ((s.campaigns.lookup campaign).bind fun c => s.releaseNextAgentUpdateStageCohort campaign c.policy now) = some next) :
    Outcome p s (.releaseCohort campaign now) next [] := by
  obtain ⟨c,joined,ok⟩ := Option.bind_eq_some_iff.mp ok
  unfold releaseNextAgentUpdateStageCohort at ok
  simp only [bind_some,guard_some,pure_some] at ok
  obtain ⟨_,_,_,within,done,rfl⟩ := ok
  apply mapAssignments_outcome rfl
  intro row mem
  split_ifs with chosen
  · obtain ⟨taken,waiting⟩ := mem_filter.mp (mem_of_named keyed mem chosen fun _ listed =>
      (mem_campaignAssignments (mem_of_mem_take (mem_of_mem_drop (mem_filter.mp listed).1))).1)
    obtain ⟨_,rfl⟩ := mem_campaignAssignments (mem_of_mem_take (mem_of_mem_drop taken))
    simp only [Bool.and_eq_true,decide_eq_true_eq] at waiting
    exact .inr (.stageReleased (truncate now) waiting.1 waiting.2 ⟨c,joined,_,_,_,within,rfl,done,taken⟩)
  · exact .inl rfl

theorem changeCampaign_outcome {change : CampaignChange}
    (ok : s.changeAgentUpdateCampaignState campaign expectedGeneration change now = some next) :
    Outcome p s (.changeCampaign campaign expectedGeneration change now) next [] := by
  unfold changeAgentUpdateCampaignState at ok
  simp only [bind_some,guard_some,pure_some] at ok
  obtain ⟨_,_,c,found,_,rfl⟩ := ok
  have carried := carried_setCampaign s campaign c
    { c with state := change.state, generation := c.generation + 1, updatedAt := now } found rfl rfl
  split_ifs with resumes
  · exact ⟨.changed _ campaign expectedGeneration change now rfl (by rw [if_pos resumes]; rfl),
      carried.trans (carried_same rfl rfl rfl),kept_identities rfl⟩
  · rw [publishCordons_eq]
    exact ⟨.changed _ campaign expectedGeneration change now rfl (by rw [if_neg resumes]; rfl),
      carried.trans (carried_same rfl rfl rfl),kept_identities rfl⟩

theorem retry_outcome {ids : List Nat}
    (ok : s.retryAgentUpdateAssignments campaign expectedGeneration ids now = some next) :
    Outcome p s (.retry campaign expectedGeneration ids now) next [] := by
  unfold retryAgentUpdateAssignments at ok
  simp only [bind_some,guard_some,pure_some] at ok
  obtain ⟨_,chosen,_,c,found,_,rows,named,unique,rfl⟩ := ok
  have carried := carried_setCampaign s campaign c { c with generation := c.generation + 1, updatedAt := now } found rfl
    rfl
  rw [publishCordons_eq]
  exact ⟨.retried _ campaign c chosen now rows named unique rfl rfl,carried.trans (carried_same rfl rfl rfl),kept_identities rfl⟩

theorem insertAssignments_frame (a b : System) (campaign : Nat) (canaries now : Int) (index : Nat)
    (agents : List Nat) (table : a.assignments = b.assignments) (counter : a.nextAssignment = b.nextAssignment) :
    (a.insertAssignments campaign canaries now index agents).assignments =
        (b.insertAssignments campaign canaries now index agents).assignments ∧
      (a.insertAssignments campaign canaries now index agents).nextAssignment = a.nextAssignment + agents.length ∧
      (a.insertAssignments campaign canaries now index agents).nextCampaign = a.nextCampaign ∧
      (a.insertAssignments campaign canaries now index agents).campaigns = a.campaigns ∧
      (a.insertAssignments campaign canaries now index agents).cordons = a.cordons ∧
      (a.insertAssignments campaign canaries now index agents).identities = a.identities := by
  induction agents generalizing a b index with
  | nil => exact ⟨table,rfl,rfl,rfl,rfl,rfl⟩
  | cons agent _ ih =>
    simp only [length_cons]
    obtain ⟨same,count,kept⟩ := ih
      { a.setAssignment (.inserted a.nextAssignment campaign agent (if (index : Int) < canaries then .stage else .none)
          now) with nextAssignment := a.nextAssignment + 1 }
      { b.setAssignment (.inserted b.nextAssignment campaign agent (if (index : Int) < canaries then .stage else .none)
          now) with nextAssignment := b.nextAssignment + 1 } (index + 1)
      (by simp only [setAssignment,Assignment.inserted,table,counter]) (by simp only [counter])
    refine ⟨same,count.trans ?_,kept⟩
    simp only
    omega

theorem create_outcome {target : Target} {policy : Policy} {agents : List Nat}
    (ok : s.createAgentUpdateCampaign target policy agents now = some next) :
    Outcome p s (.createCampaign target policy agents now) next [] := by
  unfold createAgentUpdateCampaign at ok
  simp only [bind_some,guard_some,pure_some] at ok
  obtain ⟨policy,normal,chosen,normalized,idle,rfl⟩ := ok
  have distinct : chosen.Nodup := by
    unfold normalizedUniquePositiveIDs at normalized
    split_ifs at normalized
    cases normalized
    exact (perm_insertionSort _ _).nodup_iff.mpr (nodup_dedup _)
  generalize built : ({ s.setCampaign s.nextCampaign _ with nextCampaign := s.nextCampaign + 1 } : System) = created
  have table : created.assignments = s.assignments := by rw [← built]; rfl
  have counter : created.nextAssignment = s.nextAssignment := by rw [← built]; rfl
  obtain ⟨same,count,campaigns,kept,cordons,identities⟩ :=
    insertAssignments_frame created s s.nextCampaign policy.canaryCount now 0 chosen table counter
  refine ⟨.created _ policy.canaryCount now chosen distinct idle same (count.trans (by rw [counter]))
    (campaigns.trans (by rw [← built])) (cordons.trans (by rw [← built]; rfl)) ?_,⟨?_,?_,?_,?_⟩,
    kept_identities (identities.trans (by rw [← built]; rfl))⟩
  · rw [kept,← built]
    exact ⟨_,lookup_insert _,rfl⟩
  · omega
  · rw [campaigns,← built]
    exact Nat.le_succ _
  · intro id c below found
    refine ⟨c,?_,rfl⟩
    rw [kept,← built]
    exact (lookup_insert_ne (Nat.ne_of_lt below)).trans found
  · intro id c found
    rw [kept,← built] at found
    rcases of_lookup_insert found with ⟨rfl,rfl⟩ | ⟨_,found⟩
    · refine .inr ⟨le_rfl,?_,_,normal⟩
      rw [campaigns,← built]
      exact Nat.lt_succ_self _
    · exact .inl ⟨c,found,rfl⟩

theorem enroll_outcome (ok : s.enroll identity = some next) : Outcome p s (.enroll identity) next [] := by
  have taken := ok
  unfold enroll at ok
  split_ifs at ok
  split at ok
  all_goals
    cases ok
    exact ⟨.same _ _ rfl rfl,carried_same rfl rfl rfl,fun _ => .enrolled identity taken⟩

theorem checkCounter_outcome {counter : Int}
    (ok : s.consumeAgentUpdaterCounter agent counter = some next) : Outcome p s (.checkCounter agent counter) next [] := by
  obtain ⟨identity,found,below,rfl⟩ := consume_spec ok
  exact ⟨.same _ _ rfl rfl,carried_same rfl rfl rfl,fun enrolled => .counted _
    (acknowledged_counted (enabled_stored enrolled found) below.le)⟩

theorem finalize_outcome (now : Int) : Outcome p s input (s.finalizeCompletedAgentUpdateCampaigns now) [] := by
  refine same_outcome rfl rfl rfl ⟨le_rfl,le_rfl,fun id c _ found => ?_,fun id c found => .inl ?_⟩
  · unfold finalizeCompletedAgentUpdateCampaigns
    simp only [lookup_mapValues,found,Option.map_some,Option.some.injEq,exists_eq_left']
    split_ifs <;> rfl
  · unfold finalizeCompletedAgentUpdateCampaigns at found
    rw [lookup_mapValues] at found
    obtain ⟨old,stored,rfl⟩ := Option.map_eq_some_iff.mp found
    refine ⟨old,stored,?_⟩
    split_ifs <;> rfl

theorem step_outcome (keyed : Keyed s) (input : Input) (ok : step p s input = some (next,events)) :
    Outcome p s input next events := by
  cases input with
  | enroll => exact quiet_outcome enroll_outcome ok
  | createCampaign => exact quiet_outcome create_outcome ok
  | changeCampaign => exact quiet_outcome changeCampaign_outcome ok
  | retry => exact quiet_outcome retry_outcome ok
  | checkCounter => exact quiet_outcome checkCounter_outcome ok
  | cordon => exact quiet_outcome (tryCordon_outcome keyed) ok
  | authorizeDrained => exact tryAuthorizeDrained_outcome keyed ok
  | ensureAuthorization => exact ensureAuthorization_outcome keyed ok
  | report => exact report_outcome keyed ok
  | reconcile => exact reconcile_outcome keyed ok
  | freshTunnel => exact quiet_outcome freshTunnel_outcome ok
  | blockStage => exact quiet_outcome (blockStage_outcome keyed) ok
  | blockRootAction => exact quiet_outcome (blockRootAction_outcome keyed) ok
  | releaseCohort => exact quiet_outcome (releaseCohort_outcome keyed) ok
  | setAgentEnabled agent enabled =>
    obtain ⟨taken,rfl⟩ := silent ok
    obtain ⟨identity,stored,rfl⟩ := Option.map_eq_some_iff.mp taken
    refine ⟨.same _ _ rfl rfl,carried_same rfl rfl rfl,fun enrolled => ?_⟩
    have here : identity.agentID = agent := enrolled agent identity stored
    exact .counted _ (.risen identity { identity with enabled } (here.symm ▸ stored) ⟨rfl,rfl,rfl,le_refl _,le_refl _⟩ rfl)
  | finalize =>
    obtain ⟨⟨⟩,rfl⟩ := silent ok
    exact finalize_outcome _
  | connect | disconnect =>
    obtain ⟨⟨⟩,rfl⟩ := silent ok
    exact same_outcome rfl rfl rfl (carried_same rfl rfl rfl)
  | restart =>
    obtain ⟨⟨⟩,rfl⟩ := silent ok
    exact ⟨.reloaded _ rfl rfl,carried_same rfl rfl rfl,kept_identities rfl⟩

end P2pstream.AgentUpdateSteps
