import P2pstream.AgentUpdateCounters
import P2pstream.AgentUpdateEvidence

/-! Replays of signed updater messages. Counters only rise, a message that moves an assignment carries
a counter above the stored one, a root receipt is stored at most once, and a report reaches its own
assignment at its own generation.
-/
namespace P2pstream.AgentUpdateReplay
open Library Kernel.AgentUpdates Checks AList List System Transitions
open AgentUpdateSteps AgentUpdatePhases AgentUpdateInvariant AgentUpdateCounters
open AgentUpdateEvidence

variable {p : Primitives} {checkPayload : CheckMessage → Bytes} {s middle next : System} {events later : List Event}
  {agent id : Nat}

structure Sound (s : System) : Prop where
  consistent : Consistent s
  enrolled : Enrolled s

theorem Sound.step {input : Input} (sound : Sound s) (ok : step p s input = some (next,events)) : Sound next :=
  ⟨sound.consistent.step ok,((sound.consistent.outcome ok).identified sound.enrolled).enrolled_next sound.enrolled⟩

def Sole (s : System) (agent id : Nat) : Prop :=
  ∀ other row, s.assignments.lookup other = some row → row.active = true → row.agentID = agent → other = id

theorem Sound.sole (sound : Sound s) {row : Assignment} {campaign : Campaign}
    (found : s.activeAgentUpdateAssignment agent = some (row,campaign)) : Sole s agent row.id := by
  intro other held stored live own
  have here := active_found sound.consistent.keyed found
  exact sound.consistent.unique other row.id held row stored here.stored live here.active (own.trans here.agent.symm)

structure Quiet (s next : System) (events : List Event) : Prop where
  sound : Sound next
  risen : ∀ agent, Risen s agent next
  receipts : ∀ agent, storedReceipts agent events = []

theorem Quiet.refl (sound : Sound s) : Quiet s s [] := ⟨sound,fun _ => .of_eq rfl,fun _ => rfl⟩

theorem storedReceipts_append (agent : Nat) (events later : List Event) :
    storedReceipts agent (events ++ later) = storedReceipts agent events ++ storedReceipts agent later :=
  filterMap_append ..

theorem Quiet.trans (first : Quiet s middle events) (second : Quiet middle next later) : Quiet s next (events ++ later) where
  sound := second.sound
  risen agent := (first.risen agent).trans (second.risen agent)
  receipts agent := by rw [storedReceipts_append,first.receipts,second.receipts,nil_append]

structure Follows (s : System) (agent : Nat) (next : System) (events : List Event) : Prop
    extends Quiet s next events where
  rows : ∀ id, Sole s agent id →
    Sole next agent id ∧ ∀ other, other ≠ id → next.assignments.lookup other = s.assignments.lookup other

theorem Follows.refl (sound : Sound s) : Follows s agent s [] := ⟨.refl sound,fun _ sole => ⟨sole,fun _ _ => rfl⟩⟩

theorem Follows.trans (first : Follows s agent middle events) (second : Follows middle agent next later) :
    Follows s agent next (events ++ later) where
  toQuiet := first.toQuiet.trans second.toQuiet
  rows id sole := by
    obtain ⟨between,kept⟩ := first.rows id sole
    obtain ⟨after,held⟩ := second.rows id between
    exact ⟨after,fun other apart => (held other apart).trans (kept other apart)⟩

theorem Sole.insert {row : Assignment} (sole : Sole s agent id)
    (table : next.assignments = s.assignments.insert id row) : Sole next agent id := by
  intro other held stored live own
  by_cases same : other = id
  · exact same
  · rw [table,lookup_insert_ne same] at stored
    exact sole other held stored live own

theorem change_receipts {input : Input} (change : Change p s input next events)
    (other : ∀ m now, input ≠ .report m now) (agent : Nat) : storedReceipts agent events = [] := by
  cases change with
  | one _ _ _ _ _ _ _ _ step =>
    cases step with
    | reported _ _ _ m _ _ now => exact absurd rfl (other m now)
    | _ => rfl
  | _ => rfl

/-- A transaction on the active row of an agent writes that row at most, and stores no receipt. -/
theorem Follows.of_step {input : Input} (sound : Sound s) (asks : attends input = some agent)
    (ok : step p s input = some (next,events)) : Follows s agent next events := by
  have outcome := sound.consistent.outcome ok
  refine ⟨⟨sound.step ok,fun other => (outcome.identified sound.enrolled).risen_at ?_,
    change_receipts outcome.change ?_⟩,fun id sole => ?_⟩
  · cases input <;> first | rfl | cases asks
  · rintro _ _ rfl
    cases asks
  · unfold Sole
    cases outcome.change with
    | same _ _ table | missed _ _ _ _ _ _ table =>
      rw [table]
      exact ⟨sole,fun _ _ => rfl⟩
    | one _ _ row _ _ _ stored _ _ table _ asked =>
      obtain ⟨_,query⟩ := asked agent asks
      have here := active_found sound.consistent.keyed query
      obtain rfl : row.id = id := sole row.id row stored here.active here.agent
      refine ⟨sole.insert table,fun other apart => ?_⟩
      rw [table]
      exact lookup_insert_ne apart
    | rewritten _ _ _ _ _ _ aside => cases aside.symm.trans asks
    | changed | retried | created | reloaded => cases asks

theorem tryAdvance_follows (p : Primitives) (sound : Sound s) (agent : Nat) (answers : Answers) :
    Follows s agent (s.tryAdvance p agent answers).1 (s.tryAdvance p agent answers).2 := by
  unfold tryAdvance
  split_ifs
  · have cordoned : Follows s agent ((s.tryCordon agent answers.blockers answers.now).getD s) [] := by
      cases cordoned : s.tryCordon agent answers.blockers answers.now with
      | none => exact .refl sound
      | some next =>
        have ok : step p s (.cordon agent answers.blockers answers.now) = some (next,[]) := by
          simp [step,quietly,cordoned]
        exact .of_step sound rfl ok
    generalize (s.tryCordon agent answers.blockers answers.now).getD s = between at cordoned ⊢
    dsimp only
    cases drained : between.tryAuthorizeDrained p agent answers.drained answers.drainedBlockers answers.nonce
        answers.later with
    | none => exact cordoned
    | some result =>
      have ok : step p between (.authorizeDrained agent answers.drained answers.drainedBlockers answers.nonce
          answers.later) = some (result.1,result.2) := drained
      exact cordoned.trans (.of_step cordoned.sound rfl ok)
  · exact .refl sound

/-- The next cohort is released for staging: pending rows without an action, of other agents. -/
structure Releases (s : System) (agent : Nat) (next : System) : Prop extends Quiet s next [] where
  rows : ∀ id row, s.assignments.lookup id = some row → next.assignments.lookup id = some row ∨
    (row.agentID ≠ agent ∧ row.state = .pending ∧ row.desiredAction = .none ∧
      ∃ now, next.assignments.lookup id = some (row.stageReleased now))

theorem releaseAfter_releases (p : Primitives) (sound : Sound s) (campaign : Nat) (answers : Answers)
    (apart : ∀ id row, s.assignments.lookup id = some row → row.campaignID = campaign → row.state = .pending →
      row.agentID ≠ agent) : Releases s agent (s.releaseAfter campaign answers) := by
  have released : Releases s agent (if answers.releases then
      ((s.campaigns.lookup campaign).bind fun c =>
        s.releaseNextAgentUpdateStageCohort campaign c.policy answers.later).getD s else s) := by
    split_ifs
    · cases taken : (s.campaigns.lookup campaign).bind fun c =>
          s.releaseNextAgentUpdateStageCohort campaign c.policy answers.later with
      | none => exact ⟨.refl sound,fun _ _ stored => .inl stored⟩
      | some next =>
        have ok : step p s (.releaseCohort campaign answers.later) = some (next,[]) := by
          simp [step,quietly,taken]
        have outcome := sound.consistent.outcome ok
        refine ⟨⟨sound.step ok,fun _ => (outcome.identified sound.enrolled).risen_at rfl,fun _ => rfl⟩,fun id row stored => ?_⟩
        obtain ⟨row',found,moved⟩ :=
          change_kept sound.consistent.keyed (sound.consistent.bounded id row stored).1 outcome.change stored
        cases moved with
        | stays => exact .inl found
        | step _ _ _ step =>
          cases step with
          | stageReleased now waiting idle => exact .inr ⟨apart id row stored rfl waiting,waiting,idle,now,found⟩
    · exact ⟨.refl sound,fun _ _ stored => .inl stored⟩
  unfold releaseAfter
  generalize (if answers.releases then _ else s) = between at released ⊢
  split_ifs
  · have ok : step p between (.finalize answers.later) =
        some (between.finalizeCompletedAgentUpdateCampaigns answers.later,[]) := rfl
    exact ⟨{ released with sound := released.sound.step ok },released.rows⟩
  · exact released

/-- A reconciliation touches the active row of the agent; when that succeeds the next cohort follows. -/
inductive Reconciles (s : System) (agent : Nat) (next : System) (events : List Event) : Prop where
  | settled (follows : Follows s agent next events)
  | succeeded (row now middle) (shown : events = [.succeeded row now]) (follows : Follows s agent middle events)
      (releases : Releases middle agent next)

theorem reconcile_succeeded {row : Assignment} {now time : Int}
    (change : Change p s (.reconcile agent now) next [.succeeded row time]) :
    row.agentID = agent ∧ next.assignments = s.assignments.insert row.id (row.completed now) := by
  cases change with
  | one _ _ _ _ _ _ _ _ step table =>
    cases step
    exact ⟨rfl,table⟩

theorem reconcile_reconciles (p : Primitives) (sound : Sound s) (agent : Nat) (answers : Answers) :
    Reconciles s agent (s.reconcile agent answers).1 (s.reconcile agent answers).2 := by
  unfold reconcile
  split_ifs
  · split
    next => exact .settled (.refl sound)
    next between row now taken =>
      have ok : step p s (.reconcile agent answers.later) = some (between,[.succeeded row now]) := taken
      obtain ⟨here,table⟩ := reconcile_succeeded (sound.consistent.outcome ok).change
      have after := sound.step ok
      refine .succeeded row now between rfl (.of_step sound rfl ok)
        (releaseAfter_releases p after row.campaignID answers fun other held stored own waiting same => ?_)
      have completed : between.assignments.lookup row.id = some (row.completed answers.later) := by
        rw [table]
        exact lookup_insert _
      obtain rfl := after.consistent.once other row.id held _ stored completed own (same.trans here.symm)
      cases stored.symm.trans completed
      cases waiting
    next between events _ taken =>
      have ok : step p s (.reconcile agent answers.later) = some (between,events) := taken
      exact .settled (.of_step sound rfl ok)
  · exact .settled (.refl sound)

theorem Reconciles.quiet (reconciles : Reconciles s agent next events) : Quiet s next events := by
  cases reconciles with
  | settled follows => exact follows.toQuiet
  | succeeded _ _ _ _ follows releases =>
    rw [← append_nil events]
    exact follows.toQuiet.trans releases.toQuiet

variable {identity : Identity} {m : Report} {row : Assignment} {campaign : Campaign} {now : Int}

theorem accepted_table (accepted : Accepted p s identity m now row campaign next events) :
    ∃ row', next.assignments = s.assignments.insert row.id row' := by
  obtain ⟨_,receipt,moved,_,_,_,_,rfl,_⟩ := accepted.written
  refine ⟨row.reported p m moved receipt now,?_⟩
  rw [← (reported_key row m moved receipt now).1]
  unfold settleReport
  split_ifs <;> first | rfl | exact (pauseRunning_frame _ _ _).1

/-- The counters that an accepted report consumes; a root action brings its receipt. -/
structure Consumed (identity : Identity) (m : Report) (next : System) (events : List Event) (counted : Identity) :
    Prop where
  above : identity.lastCounter < m.counter
  rises : Rises identity counted
  stored : next.identities.lookup identity.agentID = some counted
  counter : counted.lastCounter = m.counter
  receipt : (m.rootAction = none ∧ ∀ agent, storedReceipts agent events = []) ∨
    ∃ signed, m.rootActionReceipt = some signed ∧ identity.lastRootActionCounter < signed.value.rootActionCounter ∧
      counted.lastRootActionCounter = signed.value.rootActionCounter ∧ ∀ agent,
        storedReceipts agent events = if identity.agentID = agent then [signed.value.rootActionCounter] else []

theorem accepted_consumed (accepted : Accepted p s identity m now row campaign next events) :
    ∃ counted, Consumed identity m next events counted := by
  obtain ⟨_,_,_,counted,evidence,_,consumed,rfl,rfl⟩ := accepted.written
  obtain ⟨above,rises,counter,root⟩ := consumeCounters_spec consumed
  refine ⟨counted,above,rises,?_,counter,?_⟩
  · rw [(settleReport_frame ..).2.2.1,← rises.agent]
    exact lookup_insert _
  · unfold reportEvents
    cases acted : m.rootAction with
    | none =>
      refine .inl ⟨rfl,fun agent => ?_⟩
      split_ifs <;> rfl
    | some =>
      obtain ⟨signed,rfl,sent,_⟩ := evidence_root acted evidence
      obtain ⟨higher,raised⟩ := root signed rfl
      refine .inr ⟨signed,sent,higher,raised,fun agent => ?_⟩
      dsimp only [storedReceipts]
      split_ifs with own <;> simp [own]

/-- A report call acknowledges, or accepts for the active row and goes on with it. -/
inductive Answered (p : Primitives) (s : System) (identity : Identity) (m : Report) : System → List Event → Prop where
  | acknowledged (sound : Sound (s.setIdentity { identity with lastCounter := m.counter }))
      (counter : identity.lastCounter ≤ m.counter) :
      Answered p s identity m (s.setIdentity { identity with lastCounter := m.counter }) []
  | accepted {row campaign now written advanced next first second third} (accepted : Accepted p s identity m now row campaign written first)
      (sound : Sound written) (advances : Follows written identity.agentID advanced second)
      (reconciles : Reconciles advanced identity.agentID next third) :
      Answered p s identity m next (first ++ second ++ third)

theorem reportCall_answered {answers : Answers} (sound : Sound s) (ok : s.reportCall p m answers = some (next,events)) :
    ∃ identity, s.authenticateAgentUpdaterRequest p m = some identity ∧ Answered p s identity m next events := by
  unfold reportCall at ok
  simp only [bind_some,Option.pure_def] at ok
  obtain ⟨⟨written,first⟩,taken,identity,authenticated,ok⟩ := ok
  obtain ⟨_,again,reported⟩ := report_reported taken
  cases authenticated.symm.trans again
  have step : step p s (.report m answers.now) = some (written,first) := taken
  have kept := sound.step step
  refine ⟨identity,authenticated,?_⟩
  generalize s.fresh p identity m = named at reported ok
  cases reported with
  | acknowledged counter =>
    cases ok
    exact .acknowledged kept counter
  | @accepted row campaign _ _ accepted =>
    have advances : Follows written identity.agentID
        (if m.state = .staged ∧ campaign.state = .running then written.tryAdvance p identity.agentID answers
          else (written,[])).1
        (if m.state = .staged ∧ campaign.state = .running then written.tryAdvance p identity.agentID answers
          else (written,[])).2 := by
      split_ifs
      · exact tryAdvance_follows p kept identity.agentID answers
      · exact .refl kept
    cases ok
    exact .accepted accepted kept advances (reconcile_reconciles p advances.sound identity.agentID answers)

def Unchanged (s next : System) : Prop :=
  { next with identities := s.identities } = s ∧ ∀ agent, next.identities.lookup agent = s.identities.lookup agent

structure Unreplayed (s : System) (identity : Identity) (m : Report) (next : System) (events : List Event) : Prop where
  repeated : m.counter = identity.lastCounter → Unchanged s next
  above : ∀ id, next.assignments.lookup id ≠ s.assignments.lookup id → identity.lastCounter < m.counter
  receipt : ∀ id, next.assignments.lookup id ≠ s.assignments.lookup id → m.rootAction.isSome →
    ∃ signed new, m.rootActionReceipt = some signed ∧ next.identities.lookup identity.agentID = some new ∧
      identity.lastRootActionCounter < signed.value.rootActionCounter ∧
      signed.value.rootActionCounter ≤ new.lastRootActionCounter ∧
      storedReceipts identity.agentID events = [signed.value.rootActionCounter]
  generation : ∀ row, s.assignments.lookup m.assignmentID = some row → row.generation ≠ m.generation →
    next.assignments.lookup m.assignmentID = some row
  others : ∀ id row, id ≠ m.assignmentID → s.assignments.lookup id = some row →
    next.assignments.lookup id = some row ∨ (row.agentID ≠ identity.agentID ∧ row.state = .pending ∧
      row.desiredAction = .none ∧ (∃ now, next.assignments.lookup id = some (row.stageReleased now)) ∧
      ∃ done now, .succeeded done now ∈ events)

theorem acknowledged_unreplayed (stored : s.identities.lookup identity.agentID = some identity) :
    Unreplayed s identity m (s.setIdentity { identity with lastCounter := m.counter }) [] where
  repeated same := by
    refine ⟨rfl,fun agent => ?_⟩
    by_cases here : agent = identity.agentID
    · rw [here,stored,same]
      exact lookup_insert _
    · exact lookup_insert_ne here
  above _ changed := absurd rfl changed
  receipt _ changed := absurd rfl changed
  generation _ stored _ := stored
  others _ _ _ stored := .inl stored

theorem Reconciles.others (reconciles : Reconciles s agent next events) (sole : Sole s agent id) (other : Nat)
    (apart : other ≠ id) (stored : s.assignments.lookup other = some row) :
    next.assignments.lookup other = some row ∨ (row.agentID ≠ agent ∧ row.state = .pending ∧
      row.desiredAction = .none ∧ (∃ now, next.assignments.lookup other = some (row.stageReleased now)) ∧
      ∃ done now, .succeeded done now ∈ events) := by
  cases reconciles with
  | settled follows => exact .inl (((follows.rows id sole).2 other apart).trans stored)
  | succeeded done now _ shown follows releases =>
    rcases releases.rows other row (((follows.rows id sole).2 other apart).trans stored) with kept | ⟨elsewhere,waiting,idle,released⟩
    · exact .inl kept
    · exact .inr ⟨elsewhere,waiting,idle,released,done,now,by simp [shown]⟩

theorem Answered.unreplayed (sound : Sound s) (stored : s.identities.lookup identity.agentID = some identity)
    (answered : Answered p s identity m next events) : Unreplayed s identity m next events := by
  cases answered with
  | acknowledged => exact acknowledged_unreplayed stored
  | @accepted row campaign now written advanced _ first second third accepted kept advances reconciles =>
    have here := active_found sound.consistent.keyed accepted.found
    obtain ⟨_,table⟩ := accepted_table accepted
    obtain ⟨counted,consumed⟩ := accepted_consumed accepted
    have sole := (sound.sole accepted.found).insert table
    obtain ⟨alone,held⟩ := advances.rows row.id sole
    have quiet := advances.toQuiet.trans reconciles.quiet
    constructor
    case repeated =>
      intro same
      exact absurd same consumed.above.ne'
    case above =>
      intro _ _
      exact consumed.above
    case receipt =>
      intro _ _ acted
      rcases consumed.receipt with ⟨none,_⟩ | ⟨signed,sent,higher,raised,shown⟩
      · simp [none] at acted
      · obtain ⟨new,found,rises⟩ := quiet.risen identity.agentID counted consumed.stored
        refine ⟨signed,new,sent,found,higher,raised ▸ rises.root,?_⟩
        rw [append_assoc,storedReceipts_append,quiet.receipts,shown,if_pos rfl,append_nil]
    case generation =>
      intro other found differs
      rw [← accepted.id,here.stored] at found
      exact absurd (Option.some.inj found ▸ accepted.generation) differs
    case others =>
      intro id other apart found
      rw [← accepted.id] at apart
      have first : written.assignments.lookup id = some other := by
        rw [table]
        exact (lookup_insert_ne apart).trans found
      rcases reconciles.others alone id apart ((held id apart).trans first) with same | ⟨elsewhere,waiting,idle,released,done,time,shown⟩
      · exact .inl same
      · exact .inr ⟨elsewhere,waiting,idle,released,done,time,mem_append_right _ shown⟩

/-- Counters that rise one after the other, above the first bound and up to the second. -/
structure Ascends (low : Int) (counters : List Int) (high : Int) : Prop where
  order : counters.Pairwise (· < ·)
  above : ∀ counter ∈ counters, low < counter
  below : ∀ counter ∈ counters, counter ≤ high
  bounds : low ≤ high

theorem Ascends.append {low middle high : Int} {first second : List Int} (lower : Ascends low first middle)
    (upper : Ascends middle second high) : Ascends low (first ++ second) high where
  order := by
    refine pairwise_append.mpr ⟨lower.order,upper.order,fun a early b late => ?_⟩
    exact (lower.below a early).trans_lt (upper.above b late)
  above := by
    intro counter mem
    rcases mem_append.mp mem with early | late
    · exact lower.above counter early
    · exact lower.bounds.trans_lt (upper.above counter late)
  below := by
    intro counter mem
    rcases mem_append.mp mem with early | late
    · exact (lower.below counter early).trans upper.bounds
    · exact upper.below counter late
  bounds := lower.bounds.trans upper.bounds

theorem Ascends.none {low high : Int} (bounds : low ≤ high) : Ascends low [] high := by
  constructor <;> simp [bounds]

/-- The identity of the agent stays, its counters do not fall, and the receipts stored for it raise
its root action counter one after the other. -/
def Keeps (agent : Nat) (s next : System) (events : List Event) : Prop :=
  ∀ old, s.identities.lookup agent = some old → ∃ new, next.identities.lookup agent = some new ∧ Rises old new ∧
    Ascends old.lastRootActionCounter (storedReceipts agent events) new.lastRootActionCounter

theorem Keeps.of_risen (risen : Risen s agent next) (receipts : storedReceipts agent events = []) :
    Keeps agent s next events := by
  intro old stored
  obtain ⟨new,found,rises⟩ := risen old stored
  rw [receipts]
  exact ⟨new,found,rises,.none rises.root⟩

theorem Quiet.keeps (quiet : Quiet s next events) (agent : Nat) : Keeps agent s next events :=
  .of_risen (quiet.risen agent) (quiet.receipts agent)

theorem Keeps.trans (first : Keeps agent s middle events) (second : Keeps agent middle next later) :
    Keeps agent s next (events ++ later) := by
  intro old stored
  obtain ⟨between,here,low,lower⟩ := first old stored
  obtain ⟨new,there,high,upper⟩ := second between here
  rw [storedReceipts_append]
  exact ⟨new,there,low.trans high,lower.append upper⟩

theorem accepted_keeps (stored : s.identities.lookup identity.agentID = some identity)
    (accepted : Accepted p s identity m now row campaign next events) (agent : Nat) : Keeps agent s next events := by
  obtain ⟨counted,consumed⟩ := accepted_consumed accepted
  rcases consumed.receipt with ⟨_,silent⟩ | ⟨_,_,higher,raised,shown⟩
  · exact .of_risen ((accepted_counted stored accepted).risen_at agent) (silent agent)
  · by_cases own : identity.agentID = agent
    · subst own
      intro _ found
      cases stored.symm.trans found
      refine ⟨counted,consumed.stored,consumed.rises,?_⟩
      rw [shown,if_pos rfl,raised]
      exact ⟨pairwise_singleton _ _,by simpa using higher,by simp,higher.le⟩
    · exact .of_risen ((accepted_counted stored accepted).risen_at agent) ((shown agent).trans (if_neg own))

theorem Answered.keeps (stored : s.identities.lookup identity.agentID = some identity)
    (answered : Answered p s identity m next events) (agent : Nat) : Keeps agent s next events := by
  cases answered with
  | acknowledged _ counter =>
    exact .of_risen ((acknowledged_counted stored counter).risen_at agent) rfl
  | accepted accepted _ advances reconciles =>
    exact ((accepted_keeps stored accepted agent).trans (advances.keeps agent)).trans (reconciles.quiet.keeps agent)

theorem Answered.sound (answered : Answered p s identity m next events) : Sound next := by
  cases answered with
  | acknowledged sound => exact sound
  | accepted _ _ _ reconciles => exact reconciles.quiet.sound

/-- What holds of every server: its tables are sound, and every check in progress replaced a counter
below its own. -/
structure Steady (s : Server) : Prop where
  system : Sound s.system
  checks : ∀ call check, s.checks.lookup call = some check → check.replaced < check.counter

def ServerInput.enrolls (agent : Nat) : ServerInput → Bool
  | .other input => AgentUpdateCounters.enrolls agent input
  | _ => false

/-- What an accepted check does at once; everything else it does later, as a call in progress. -/
structure Checked (s : Server) (signer : Identity) (m : CheckMessage) (next : Server) : Prop where
  above : signer.lastCounter < m.counter
  counted : Counted s.system next.system
  assignments : next.system.assignments = s.system.assignments
  calls : next.checks = s.checks ∨ next.checks = s.checks.insert s.nextCheck ⟨signer.agentID,signer.lastCounter,m.counter⟩

variable {a b : Server}

theorem check_checked (enrolled : Enrolled a.system) {m : CheckMessage} (ok : a.check p checkPayload m = some b) :
    ∃ signer, a.system.authenticateCheck p checkPayload m = some signer ∧
      a.system.identities.lookup signer.agentID = some signer ∧ Checked a signer m b ∧
      step p a.system (.checkCounter signer.agentID m.counter) = some (b.system,[]) := by
  unfold Server.check at ok
  simp only [bind_some,guard_some] at ok
  obtain ⟨_,_,_,signer,authenticated,counted,consumed,ok⟩ := ok
  obtain ⟨agent,held⟩ := Table.lookup_of_mem_values _ (mem_of_find?_eq_some authenticated)
  have stored : a.system.identities.lookup signer.agentID = some signer := by
    rw [enrolled agent signer held]
    exact held
  have system : b.system = counted := by
    split_ifs at ok <;> exact (Option.some.inj ok) ▸ rfl
  have calls : b.checks = a.checks ∨ b.checks = a.checks.insert a.nextCheck ⟨signer.agentID,signer.lastCounter,m.counter⟩ := by
    split_ifs at ok
    · exact .inr ((Option.some.inj ok) ▸ rfl)
    · exact .inl ((Option.some.inj ok) ▸ rfl)
  have step : step p a.system (.checkCounter signer.agentID m.counter) = some (b.system,[]) := by
    simp [step,quietly,consumed,system]
  obtain ⟨_,found,above,rfl⟩ := consume_spec consumed
  cases stored.symm.trans (Option.filter_eq_some_iff.mp found).1
  exact ⟨signer,authenticated,stored,⟨above,system ▸ acknowledged_counted stored above.le,by rw [system]; rfl,calls⟩,step⟩

theorem authenticated_answered (steady : Steady a) {answers : Answers}
    (ok : a.system.reportCall p m answers = some (next,events)) :
    ∃ signer, a.system.authenticateAgentUpdaterRequest p m = some signer ∧
      a.system.identities.lookup signer.agentID = some signer ∧ Answered p a.system signer m next events := by
  obtain ⟨signer,authenticated,answered⟩ := reportCall_answered steady.system ok
  exact ⟨signer,authenticated,authenticated_stored steady.system.enrolled authenticated,answered⟩

theorem steady_step {input : ServerInput} (steady : Steady a) (ok : Server.step p checkPayload a input = some (b,events)) :
    Steady b ∧ ∀ agent, ServerInput.enrolls agent input = false → Keeps agent a.system b.system events := by
  cases input with
  | other =>
    simp only [Server.step,bind_some,guard_some,pure_pair] at ok
    obtain ⟨apart,⟨system,shown⟩,taken,rfl,rfl⟩ := ok
    have outcome := steady.system.consistent.outcome taken
    refine ⟨⟨steady.system.step taken,steady.checks⟩,fun agent kept => ?_⟩
    refine .of_risen ((outcome.identified steady.system.enrolled).risen_at kept) (change_receipts outcome.change ?_ agent)
    rintro _ _ rfl
    cases apart
  | report =>
    simp only [Server.step,bind_some,pure_pair] at ok
    obtain ⟨⟨system,shown⟩,taken,rfl,rfl⟩ := ok
    obtain ⟨signer,_,stored,answered⟩ := authenticated_answered steady taken
    exact ⟨⟨answered.sound,steady.checks⟩,fun agent _ => answered.keeps stored agent⟩
  | check =>
    simp only [Server.step,Option.map_eq_some_iff,Prod.mk.injEq] at ok
    obtain ⟨_,taken,rfl,rfl⟩ := ok
    obtain ⟨_,_,_,checked,step⟩ := check_checked steady.system.enrolled taken
    refine ⟨⟨steady.system.step step,?_⟩,fun agent _ => .of_risen (checked.counted.risen_at agent) rfl⟩
    rcases checked.calls with same | same
    · rw [same]
      exact steady.checks
    · rw [same]
      exact Table.forall_insert steady.checks checked.above
  | checkReconcile _ answers =>
    simp only [Server.step,bind_some,pure_pair] at ok
    obtain ⟨check,_,rfl,rfl⟩ := ok
    have quiet := (reconcile_reconciles p steady.system check.agent answers).quiet
    exact ⟨⟨quiet.sound,steady.checks⟩,fun agent _ => quiet.keeps agent⟩
  | checkAdvance _ answers =>
    simp only [Server.step,bind_some,guard_some,pure_pair] at ok
    obtain ⟨check,_,_,_,_,rfl,rfl⟩ := ok
    have quiet := (tryAdvance_follows p steady.system check.agent answers).toQuiet
    exact ⟨⟨quiet.sound,steady.checks⟩,fun agent _ => quiet.keeps agent⟩
  | checkAuthorize _ answers =>
    simp only [Server.step,bind_some,guard_some,pure_pair] at ok
    obtain ⟨check,_,⟨row,_⟩,_,_,⟨system,shown⟩,taken,rfl,rfl⟩ := ok
    have step : step p a.system (.ensureAuthorization check.agent row.id row.generation row.desiredAction
      answers.nonce answers.now) = some (system,shown) := taken
    have quiet := (Follows.of_step steady.system rfl step).toQuiet
    exact ⟨⟨quiet.sound,steady.checks⟩,fun agent _ => quiet.keeps agent⟩

theorem steady_initial : Steady Server.initial := ⟨⟨consistent_initial,nofun⟩,nofun⟩

theorem keeps_run {inputs : List ServerInput} (steady : Steady a)
    (ran : run (Server.step p checkPayload) a inputs = some (b,events))
    (kept : ∀ input ∈ inputs, ServerInput.enrolls agent input = false) :
    Steady b ∧ Keeps agent a.system b.system events := by
  induction inputs generalizing a events with
  | nil =>
    cases ran
    exact ⟨steady,(Quiet.refl steady.system).keeps agent⟩
  | cons input _ ih =>
    obtain ⟨_,_,_,taken,tail,rfl⟩ := run_cons ran
    obtain ⟨between,keeps⟩ := steady_step steady taken
    obtain ⟨after,others⟩ := ih between tail fun other mem => kept other (mem_cons_of_mem _ mem)
    exact ⟨after,(keeps agent (kept input mem_cons_self)).trans others⟩

/-- Whatever signed messages arrive, in any order and however often: while an identity is enrolled its
counters do not fall and each stored receipt raises the root action counter; a report or a check is
accepted for a change only above the stored counter, a report that repeats it changes nothing, and a
report reaches the assignment it names at its own generation only. Beside it, the cohort that follows a
success is released for staging. -/
theorem updater_messages_not_replayed (p : Primitives) (checkPayload : CheckMessage → Bytes)
    (before inputs : List ServerInput) (s t : Server) (past events : List Event) (agent : Nat) (identity : Identity)
    (reached : run (Server.step p checkPayload) Server.initial before = some (s,past))
    (continued : run (Server.step p checkPayload) s inputs = some (t,events))
    (enrolled : s.system.identities.lookup agent = some identity)
    (kept : ∀ input ∈ inputs, ServerInput.enrolls agent input = false) :
    (∃ later, t.system.identities.lookup agent = some later ∧ identity.lastCounter ≤ later.lastCounter ∧
      identity.lastRootActionCounter ≤ later.lastRootActionCounter ∧
      (storedReceipts agent events).Pairwise (· < ·) ∧ ∀ counter ∈ storedReceipts agent events,
        identity.lastRootActionCounter < counter ∧ counter ≤ later.lastRootActionCounter) ∧
    (∀ m answers next shown, Server.step p checkPayload t (.report m answers) = some (next,shown) →
      ∃ signer, t.system.authenticateAgentUpdaterRequest p m = some signer ∧
        t.system.identities.lookup signer.agentID = some signer ∧ Unreplayed t.system signer m next.system shown) ∧
    (∀ m next shown, Server.step p checkPayload t (.check m) = some (next,shown) →
      ∃ signer, t.system.authenticateCheck p checkPayload m = some signer ∧
        t.system.identities.lookup signer.agentID = some signer ∧ Checked t signer m next) ∧
    ∀ call check, t.checks.lookup call = some check → check.replaced < check.counter := by
  have started : Steady s := run_kept (fun _ _ _ _ steady taken => (steady_step steady taken).1) steady_initial reached
  obtain ⟨steady,keeps⟩ := keeps_run started continued kept
  refine ⟨?_,fun m answers next shown ok => ?_,fun m next shown ok => ?_,steady.checks⟩
  · obtain ⟨later,found,rises,ascends⟩ := keeps identity enrolled
    exact ⟨later,found,rises.counter,rises.root,ascends.order,
      fun counter mem => ⟨ascends.above counter mem,ascends.below counter mem⟩⟩
  · simp only [Server.step,bind_some,pure_pair] at ok
    obtain ⟨⟨_,_⟩,taken,rfl,rfl⟩ := ok
    obtain ⟨signer,authenticated,stored,answered⟩ := authenticated_answered steady taken
    exact ⟨signer,authenticated,stored,answered.unreplayed steady.system stored⟩
  · simp only [Server.step,Option.map_eq_some_iff,Prod.mk.injEq] at ok
    obtain ⟨_,taken,rfl,rfl⟩ := ok
    obtain ⟨signer,authenticated,stored,checked,_⟩ := check_checked steady.system.enrolled taken
    exact ⟨signer,authenticated,stored,checked⟩

def exampleAnswers : Answers := ⟨true,[],true,[],[7],true,true,true,0,0⟩

def exampleMessages : List ServerInput := [.report (exampleReport 1 1 .staged none) exampleAnswers,
    .report (exampleReport 1 2 .activated (some exampleReceipt)) exampleAnswers,
    .report (exampleReport 1 2 .activated (some exampleReceipt)) exampleAnswers,
    .check ⟨"a",3,replicate 64 0⟩]

theorem updater_messages_not_replayed_activation : ∃ s past t events later,
      run (Server.step trusting fun _ => []) Server.initial (exampleCampaign.map .other) = some (s,past) ∧
      run (Server.step trusting fun _ => []) s exampleMessages = some (t,events) ∧
      storedReceipts 1 events = [1] ∧ t.system.identities.lookup 1 = some later ∧ 0 ≤ later.lastCounter ∧
      1 ≤ later.lastRootActionCounter := by
  obtain ⟨later,found,counter,_,_,receipts⟩ := (updater_messages_not_replayed trusting (fun _ => [])
    (exampleCampaign.map .other) exampleMessages _ _ _ _ 1 _ rfl rfl rfl (by decide)).1
  exact ⟨_,_,_,_,later,rfl,rfl,rfl,found,counter,(receipts 1 (.head _)).2⟩

end P2pstream.AgentUpdateReplay
