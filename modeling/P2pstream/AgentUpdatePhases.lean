import P2pstream.AgentUpdateSteps

/-! The life of one assignment row. Every statement that writes a row leads from a
phase to a phase, and only a proved outcome leads out of the fenced one.
-/
namespace P2pstream.AgentUpdatePhases
open Kernel.AgentUpdates Semantics.AgentUpdates AgentUpdateSteps Bool AssignmentState List System

variable {p : Primitives} {s : System} {input : Input} {row row' : Assignment} {fence : Option Bool} {events : List Event}

theorem of_draining (drains : row.draining) : row.state = .cordoned ∧ row.cordoned ∧ row.desiredAction = .none := by
  simp only [Assignment.draining,and_eq_true,decide_eq_true_eq] at drains
  exact ⟨drains.1.1,drains.1.2,drains.2⟩

section Inversion

theorem idle_of_early (phase : Phase row) (early : row.state = .pending ∨ row.state = .staging ∨ row.state = .staged) :
    row.cordoned = false ∧ (row.desiredAction = .none ∨ row.desiredAction = .stage) ∧ Unauthorized row := by
  cases phase with
  | idle open_ _ action unauthorized => exact ⟨open_,action,unauthorized⟩
  | draining drains => rcases early with h | h | h <;> simp [Assignment.draining,h] at drains
  | fenced fenced =>
    rcases fenced.phase with ⟨_,state⟩ | ⟨_,state⟩ | ⟨_,state⟩ <;> rcases early with h | h | h <;>
      simp [h,answersRollback] at state
  | closed _ state => rcases early with h | h | h <;> simp [h,terminal] at state

theorem unauthorized_of_draining (phase : Phase row) (drains : row.draining) : Unauthorized row := by
  obtain ⟨state,cordoned,action⟩ := of_draining drains
  cases phase with
  | idle open_ | closed open_ => simp [cordoned] at open_
  | draining _ unauthorized => exact unauthorized
  | fenced fenced => rcases fenced.phase with ⟨h,_⟩ | ⟨h,_⟩ | ⟨_,h⟩ <;> simp [action,state] at h

theorem fenced_of_privileged (phase : Phase row)
    (desired : row.desiredAction = .activate ∨ row.desiredAction = .rollback) : Fenced row := by
  cases phase with
  | idle _ _ action | closed _ _ action => rcases desired with h | h <;> simp [h] at action
  | draining drains => rcases desired with h | h <;> simp [Assignment.draining,h] at drains
  | fenced fenced => exact fenced

theorem fenced_of_proving (phase : Phase row) (proving : row.state = .awaitingTunnel ∨ row.state = .healthyDwell) :
    Fenced row := by
  cases phase with
  | idle _ state => rcases proving with h | h <;> simp [h] at state
  | draining drains => rcases proving with h | h <;> simp [Assignment.draining,h] at drains
  | fenced fenced => exact fenced
  | closed _ state => rcases proving with h | h <;> simp [h,terminal] at state

theorem fenced_answers (fenced : Fenced row) : row.state.answersRollback := by
  rcases fenced.phase with ⟨_,h | h⟩ | ⟨_,h⟩ | ⟨_,h | h | h⟩
  case inr.inl => exact h
  all_goals rw [h]; rfl

theorem fenced_active (fenced : Fenced row) : row.active := by
  unfold Assignment.active
  rcases fenced.phase with ⟨_,h | h⟩ | ⟨desired,h⟩ | ⟨_,h | h | h⟩
  case inr.inl =>
    cases state : row.state <;>
      simp [state,desired,answersRollback,terminal] at h ⊢
  all_goals simp [h,terminal]

theorem live_of_cordoned (phase : Phase row) (cordoned : row.cordoned) : row.active := by
  cases phase with
  | idle open_ | closed open_ => simp [cordoned] at open_
  | draining drains => simp [Assignment.active,of_draining drains,terminal]
  | fenced fenced => exact fenced_active fenced

end Inversion

inductive ReportMove (p : Primitives) (identity : Identity) (row : Assignment) (campaign : Campaign) (m : Report)
    (now : Int) : Option SignedReceipt → Transition → Prop where
  | staging (state : m.state = .downloading) (desired : row.desiredAction = .stage)
      (early : row.state = .pending ∨ row.state = .staging) : ReportMove p identity row campaign m now none
        { state := .staging, action := row.desiredAction, cordoned := row.cordoned }
  | staged (state : m.state = .staged) (desired : row.desiredAction = .stage)
      (early : row.state = .pending ∨ row.state = .staging) :
      ReportMove p identity row campaign m now none { state := .staged, action := .none, cordoned := row.cordoned }
  | stageFailed (state : m.state = .failed) (desired : row.desiredAction = .stage) (open_ : row.cordoned = false)
      (early : row.state = .pending ∨ row.state = .staging) : ReportMove p identity row campaign m now none
        { state := .failed, action := .none, cordoned := row.cordoned, pauses := true }
  | activated (receipt) (state : m.state = .activated) (desired : row.desiredAction = .activate)
      (cordoned : row.cordoned = true)
      (verified : verifyAgentUpdateRootActionReceipt p identity row campaign receipt .activate now = true) :
      ReportMove p identity row campaign m now (some receipt)
        { state := .awaitingTunnel, action := .none, cordoned := row.cordoned }
  | healthy (state : m.state = .healthy) (proving : row.state = .awaitingTunnel ∨ row.state = .healthyDwell) :
      ReportMove p identity row campaign m now none
        { state := .healthyDwell, action := row.desiredAction, cordoned := row.cordoned }
  | blocked (state : m.state = .failed) (cordoned : row.cordoned = true)
      (commanded : (row.desiredAction = .activate ∨ row.desiredAction = .rollback) ∨
        (row.state = .awaitingTunnel ∨ row.state = .healthyDwell)) :
      ReportMove p identity row campaign m now none
        { state := .blocked, action := .none, cordoned := row.cordoned, pauses := true }
  | rolledBack (receipt) (state : m.state = .rolledBack) (desired : row.desiredAction = .rollback)
      (cordoned : row.cordoned = true)
      (verified : verifyAgentUpdateRootActionReceipt p identity row campaign receipt .rollback now = true) :
      ReportMove p identity row campaign m now (some receipt)
        { state := .awaitingTunnel, action := .none, cordoned := true }

section Reports

variable {identity : Identity} {campaign : Campaign} {artifact : Artifact} {m : Report} {now : Int}
  {receipt : Option SignedReceipt} {next : Transition}

theorem rootAction_activated (state : m.state = .activated) : m.rootAction = some .activate := by
  simp only [Report.rootAction,state]

theorem rootAction_rolledBack (state : m.state = .rolledBack) : m.rootAction = some .rollback := by
  simp only [Report.rootAction,state]

theorem evidence_root {action : AssignmentAction} (root : m.rootAction = some action)
    (evidence : reportEvidence p identity row campaign m now = some receipt) :
    ∃ signed, receipt = some signed ∧ m.rootActionReceipt = some signed ∧
      verifyAgentUpdateRootActionReceipt p identity row campaign signed action now := by
  unfold reportEvidence at evidence
  simp only [root] at evidence
  split at evidence
  · simp at evidence
  next signed sent =>
    split_ifs at evidence with accepted
    exact ⟨signed,(Option.some.inj evidence).symm,sent,accepted.1⟩

theorem evidence_plain (plain : m.rootAction = none)
    (evidence : reportEvidence p identity row campaign m now = some receipt) : receipt = none := by
  unfold reportEvidence at evidence
  simp only [plain] at evidence
  split_ifs at evidence
  exact (Option.some.inj evidence).symm

theorem mem_reportEvents {event : Event} (mem : event ∈ reportEvents identity row campaign m receipt now) :
    (∃ signed action, event = .receiptStored identity row campaign signed action now) ∨ event = .healthy row now := by
  unfold reportEvents at mem
  split at mem
  · exact .inl ⟨_,_,mem_singleton.mp mem⟩
  · split_ifs at mem
    · exact .inr (mem_singleton.mp mem)
    · cases mem

theorem report_move (evidence : reportEvidence p identity row campaign m now = some receipt)
    (accepted : reportTransition row campaign artifact m = some next) :
    ReportMove p identity row campaign m now receipt next := by
  unfold reportTransition at accepted
  split at accepted <;> rename_i state
  all_goals first
    | obtain ⟨signed,rfl,_,verified⟩ := evidence_root (rootAction_activated state) evidence
    | obtain ⟨signed,rfl,_,verified⟩ := evidence_root (rootAction_rolledBack state) evidence
    | obtain rfl := evidence_plain (by simp [Report.rootAction,state]) evidence
  all_goals split_ifs at accepted <;> cases accepted
  next early => exact .staging state early.1 early.2
  next early => exact .staged state early.1 early.2.1
  next commanded => exact .activated signed state commanded.1 commanded.2.1 verified
  next proving => exact .healthy state proving.2
  next early => exact .stageFailed state early.1 early.2.1 early.2.2
  next activates => exact .blocked state activates.2.1 (.inl (.inl activates.1))
  next proving => exact .blocked state proving.2.1 (.inr proving.2.2.2)
  next restores => exact .blocked state restores.2.1 (.inl (.inr restores.1))
  next commanded => exact .rolledBack signed state commanded.1 commanded.2.1 verified

theorem reported_unauthorized (unauthorized : Unauthorized row) (passive : m.state ≠ .activated)
    (unhealthy : m.state ≠ .healthy) : Unauthorized (row.reported p m next none now) := by
  obtain ⟨authorization,activatedAt,completedAt,freshTunnelAt,healthyAt⟩ := unauthorized
  constructor <;> simp [Assignment.reported,authorization,activatedAt,completedAt,freshTunnelAt,healthyAt,passive,unhealthy]

theorem not_stage_of_fenced (fenced : Fenced row) : row.desiredAction ≠ .stage := by
  intro stage
  rcases fenced.phase with ⟨h,_⟩ | ⟨h,_⟩ | ⟨h,_⟩ <;> simp [stage] at h

theorem reported_fenced (fenced : Fenced row) (move : ReportMove p identity row campaign m now receipt next) :
    Fenced (row.reported p m next receipt now) := by
  cases move with
  | staging _ desired | staged _ desired | stageFailed _ desired => exact absurd desired (not_stage_of_fenced fenced)
  | activated _ _ _ cordoned => exact ⟨cordoned,.inr (.inr ⟨rfl,.inl rfl⟩)⟩
  | healthy _ proving =>
    refine ⟨fenced.cordoned,?_⟩
    rcases fenced.phase with ⟨_,state⟩ | ⟨desired,_⟩ | ⟨desired,_⟩
    · rcases proving with h | h <;> simp [h] at state
    · exact .inr (.inl ⟨desired,rfl⟩)
    · exact .inr (.inr ⟨desired,.inr (.inl rfl)⟩)
  | blocked _ cordoned => exact ⟨cordoned,.inr (.inr ⟨rfl,.inr (.inr rfl)⟩)⟩
  | rolledBack => exact ⟨rfl,.inr (.inr ⟨rfl,.inl rfl⟩)⟩

theorem reported_phase (phase : Phase row) (move : ReportMove p identity row campaign m now receipt next) :
    Phase (row.reported p m next receipt now) := by
  have kept (fenced : Fenced row) := reported_fenced fenced move
  cases move with
  | staging state desired =>
    obtain ⟨open_,_,unauthorized⟩ := idle_of_early phase (by tauto)
    exact .idle open_ (.inr (.inl rfl)) (.inr desired)
      (reported_unauthorized unauthorized (by simp [state]) (by simp [state]))
  | staged state =>
    obtain ⟨open_,_,unauthorized⟩ := idle_of_early phase (by tauto)
    exact .idle open_ (.inr (.inr (.inl rfl))) (.inl rfl)
      (reported_unauthorized unauthorized (by simp [state]) (by simp [state]))
  | stageFailed _ _ open_ => exact .closed open_ rfl rfl
  | activated _ _ desired => exact .fenced (kept (fenced_of_privileged phase (.inl desired)))
  | healthy _ proving => exact .fenced (kept (fenced_of_proving phase proving))
  | blocked _ _ commanded =>
    exact .fenced (kept (commanded.elim (fenced_of_privileged phase) (fenced_of_proving phase)))
  | rolledBack _ _ desired => exact .fenced (kept (fenced_of_privileged phase (.inr desired)))

end Reports

theorem privileged_of_auth {action : AssignmentAction} (desired : desiredActionAuth row.desiredAction = some action) :
    row.desiredAction = .activate ∨ row.desiredAction = .rollback := by
  cases h : row.desiredAction <;> simp [h,desiredActionAuth] at desired ⊢

theorem overdue_proving {conn : Option Conn} {now : Int} (overdue : evidenceOverdue row conn now) :
    row.cordoned ∧ (row.state = .awaitingTunnel ∨ row.state = .healthyDwell) := by
  simp only [evidenceOverdue,and_eq_true,or_eq_true,decide_eq_true_eq] at overdue
  exact overdue.1.1

theorem accepts_proving {connectedAt : Int} (accepts : row.acceptsTunnel p connectedAt) :
    row.state = .awaitingTunnel ∨ row.state = .healthyDwell := by
  simp only [Assignment.acceptsTunnel,and_eq_true,or_eq_true,decide_eq_true_eq] at accepts
  exact accepts.1.2

theorem not_draining_of_fenced (fenced : Fenced row) : row.draining ≠ true := by
  intro drains
  rcases fenced.phase with ⟨h,_⟩ | ⟨h,_⟩ | ⟨_,h⟩ <;> simp [of_draining drains] at h

theorem not_early_of_fenced (fenced : Fenced row) :
    ¬ (row.state = .pending ∨ row.state = .staging ∨ row.state = .staged) := by
  intro early
  have answers := fenced_answers fenced
  rcases early with h | h | h <;> simp [h,answersRollback] at answers

theorem step_fenced (fenced : Fenced row) (step : RowStep p s row input row' fence events)
    (held : ∀ event ∈ events, ¬ releases row.id event) : Fenced row' := by
  cases step with
  | cordoned _ staged => exact absurd (.inr (.inr staged)) (not_early_of_fenced fenced)
  | drainTimedOut _ drains | drainUnwound _ _ drains | activationAuthorized _ _ drains =>
    exact absurd drains (not_draining_of_fenced fenced)
  | reauthorized | tunnel => exact ⟨fenced.cordoned,fenced.phase⟩
  | reported _ _ _ _ _ _ _ _ evidence accepted =>
    exact reported_fenced fenced (report_move evidence accepted)
  | evidenceTimedOut | rootActionTimedOut => exact ⟨fenced.cordoned,.inr (.inr ⟨rfl,.inr (.inr rfl)⟩)⟩
  | recovered | succeeded => exact absurd rfl (held _ (.head _))
  | stageTimedOut _ uncordoned => simp [fenced.cordoned] at uncordoned
  | stageReleased _ pending => exact absurd (.inl pending) (not_early_of_fenced fenced)

section

variable (phase : Phase row) (step : RowStep p s row input row' fence events)
include phase step

theorem step_armed (arming : ∃ event ∈ events, arms row.id event) : Fenced row' := by
  obtain ⟨_,mem,arming⟩ := arming
  cases step with
  | activationAuthorized _ _ drains =>
    obtain ⟨state,cordoned,_⟩ := of_draining drains
    exact ⟨cordoned,.inl ⟨rfl,.inl state⟩⟩
  | reauthorized _ _ _ desired =>
    have fenced := fenced_of_privileged phase (privileged_of_auth desired)
    exact ⟨fenced.cordoned,fenced.phase⟩
  | reported =>
    obtain ⟨_,_,rfl⟩ | rfl := mem_reportEvents mem <;> exact arming.elim
  | recovered | succeeded =>
    simp only [mem_singleton] at mem
    simp [mem,arms] at arming
  | _ => simp at mem

theorem step_phase : Phase row' := by
  have armed := step_armed phase step
  cases step with
  | cordoned _ staged =>
    obtain ⟨_,_,unauthorized⟩ := idle_of_early phase (.inr (.inr staged))
    exact .draining rfl { unauthorized with authorization := rfl }
  | drainTimedOut _ drains =>
    exact .idle rfl (.inr (.inr (.inr rfl))) (.inl rfl) { unauthorized_of_draining phase drains with }
  | drainUnwound _ _ drains =>
    exact .idle rfl (.inr (.inr (.inl rfl))) (.inl rfl) { unauthorized_of_draining phase drains with }
  | activationAuthorized | reauthorized => exact .fenced (armed ⟨_,.head _,rfl⟩)
  | reported _ _ _ _ _ _ _ _ evidence accepted =>
    exact reported_phase phase (report_move evidence accepted)
  | evidenceTimedOut _ _ _ _ _ overdue =>
    exact .fenced ⟨(overdue_proving overdue).1,.inr (.inr ⟨rfl,.inr (.inr rfl)⟩)⟩
  | recovered | succeeded => exact .closed rfl rfl rfl
  | tunnel _ accepts =>
    have fenced := fenced_of_proving phase (accepts_proving accepts)
    exact .fenced ⟨fenced.cordoned,fenced.phase⟩
  | stageTimedOut _ uncordoned =>
    obtain ⟨_,_,unauthorized⟩ := idle_of_early phase (by tauto)
    exact .idle uncordoned (.inr (.inr (.inr rfl))) (.inl rfl) { unauthorized with }
  | rootActionTimedOut _ cordoned => exact .fenced ⟨cordoned,.inr (.inr ⟨rfl,.inr (.inr rfl)⟩)⟩
  | stageReleased _ pending =>
    obtain ⟨open_,_,unauthorized⟩ := idle_of_early phase (.inl pending)
    exact .idle open_ (.inl pending) (.inr rfl) { unauthorized with }

theorem step_active : row.active := by
  have early (state : row.state = .pending ∨ row.state = .staging ∨ row.state = .staged) : row.active := by
    rcases state with h | h | h <;> simp [Assignment.active,h,terminal]
  have drained (drains : row.draining) : row.active := live_of_cordoned phase (of_draining drains).2.1
  have proved (proving : row.state = .awaitingTunnel ∨ row.state = .healthyDwell) : row.active :=
    fenced_active (fenced_of_proving phase proving)
  have commanded (desired : row.desiredAction = .activate ∨ row.desiredAction = .rollback) : row.active :=
    fenced_active (fenced_of_privileged phase desired)
  cases step with
  | cordoned _ staged => exact early (.inr (.inr staged))
  | drainTimedOut _ drains | drainUnwound _ _ drains | activationAuthorized _ _ drains =>
    exact drained drains
  | reauthorized _ _ _ desired => exact commanded (privileged_of_auth desired)
  | reported _ _ _ _ _ _ _ _ evidence accepted =>
    cases report_move evidence accepted with
    | staging | staged | stageFailed => exact early (by tauto)
    | activated _ _ desired => exact commanded (.inl desired)
    | healthy _ proving => exact proved proving
    | blocked _ cordoned => exact live_of_cordoned phase cordoned
    | rolledBack _ _ desired => exact commanded (.inr desired)
  | evidenceTimedOut _ _ _ _ _ overdue => exact proved (overdue_proving overdue).2
  | recovered _ _ _ _ recovers =>
    simp only [rollbackRecovered,and_eq_true,decide_eq_true_eq] at recovers
    exact proved (.inl recovers.1.1.1.2)
  | succeeded _ _ _ _ succeeds =>
    simp only [maySucceed,and_eq_true,decide_eq_true_eq] at succeeds
    exact proved (by tauto)
  | tunnel _ accepts => exact proved (accepts_proving accepts)
  | stageTimedOut => exact early (by tauto)
  | rootActionTimedOut _ cordoned => exact live_of_cordoned phase cordoned
  | stageReleased _ pending => exact early (.inl pending)

end

theorem step_cordoned (step : RowStep p s row input row' fence events) : row'.cordoned = fence.getD row.cordoned := by
  cases step with
  | reported _ _ _ m receipt next now _ evidence accepted =>
    have stored : (row.reported p m next receipt now).cordoned = next.cordoned := rfl
    have moved : next.cordoned = row.cordoned := by
      cases report_move evidence accepted with
      | rolledBack _ _ _ cordoned => exact cordoned.symm
      | _ => rfl
    rw [stored]
    split_ifs with cordoned
    · exact moved
    · simpa using cordoned
  | _ => rfl

section Campaigns

variable {now : Int} {campaign : CampaignState} {kind : Assignment.RetryKind}

theorem not_fenced_of_reversible (reversible : row.reversible) : ¬ Fenced row := by
  simp only [Assignment.reversible,and_eq_true,or_eq_true,not_eq_true',decide_eq_true_eq] at reversible
  obtain ⟨⟨⟨_,passive⟩,unwound⟩,cordon⟩ := reversible
  intro fenced
  rcases fenced.phase with ⟨h,_⟩ | ⟨h,_⟩ | ⟨_,h⟩
  · exact absurd h passive
  · exact absurd h unwound
  · rcases h with h | h | h <;> simp [fenced.cordoned,h] at cordon

theorem reversible_unauthorized (phase : Phase row) (reversible : row.reversible) : Unauthorized row := by
  cases phase with
  | idle _ _ _ unauthorized | draining _ unauthorized => exact unauthorized
  | fenced fenced => exact absurd fenced (not_fenced_of_reversible reversible)
  | closed _ terminal => simp [Assignment.reversible,terminal] at reversible

theorem reversible_of_unauthorized (unauthorized : Unauthorized row) (nonterminal : row.state.terminal = false)
    (action : row.desiredAction = .none ∨ row.desiredAction = .stage)
    (cordon : row.cordoned = false ∨ row.state = .cordoned) : row.reversible := by
  simp only [Assignment.reversible,nonterminal,unauthorized.activatedAt,unauthorized.authorization]
  rcases action with a | a <;> rcases cordon with c | c <;> simp [a,c]

theorem rollbackRequested_fenced (fenced : Fenced row) (now : Int) : Fenced (row.rollbackRequested now) := by
  have answers := fenced_answers fenced
  exact ⟨rfl,.inr (.inl ⟨rfl,answers⟩)⟩

theorem drains_draining (drains : row.drains) : row.draining := by
  simp only [Assignment.drains,and_eq_true,decide_eq_true_eq] at drains
  simp [Assignment.draining,drains.1.1.1,drains.2,drains.1.1.2]

/-- A cancellation ends what was not authorized, asks for a rollback of what was,
and leaves an outcome that is decided; a pause ends a drain and a resumption only touches the row. -/
theorem change_cases {motive : Assignment → Prop} (phase : Phase row) (change : CampaignChange) (now : Int) (same : motive row)
    (touched : motive { row with updatedAt := now })
    (paused : row.draining → motive { row with state := .staged, cordoned := false, updatedAt := now })
    (cancelled : Unauthorized row → ¬ Fenced row → motive (row.cancelled now))
    (requested : Fenced row → motive (row.rollbackRequested now)) : motive (change.row now row) := by
  cases change with
  | pause =>
    simp only [CampaignChange.row,Assignment.pause]
    split_ifs with drains
    · exact paused (drains_draining drains)
    · exact same
  | resume =>
    simp only [CampaignChange.row,Assignment.resume]
    split_ifs
    · exact touched
    · exact same
  | cancel =>
    simp only [CampaignChange.row,Assignment.cancel]
    by_cases reversible : row.reversible
    · simpa [reversible,Assignment.needsRollback,Assignment.cancelled,terminal] using
        cancelled (reversible_unauthorized phase reversible) (not_fenced_of_reversible reversible)
    · simp only [reversible,false_eq_true,if_false]
      by_cases needed : row.needsRollback
      · rw [if_pos needed]
        simp only [Assignment.needsRollback,and_eq_true,not_eq_true'] at needed
        cases phase with
        | idle open_ _ action unauthorized =>
          exact absurd (reversible_of_unauthorized unauthorized needed.1 action (.inl open_)) reversible
        | draining drains unauthorized =>
          obtain ⟨state,_,action⟩ := of_draining drains
          exact absurd (reversible_of_unauthorized unauthorized needed.1 (.inl action) (.inr state)) reversible
        | fenced fenced => exact requested fenced
        | closed _ terminal => simp [terminal] at needed
      · rwa [if_neg needed]

theorem change_key (change : CampaignChange) (row : Assignment) (now : Int) : SameKey row (change.row now row) := by
  cases change <;> simp only [CampaignChange.row,Assignment.pause,Assignment.resume,Assignment.cancel] <;>
    split_ifs <;> exact ⟨rfl,rfl,rfl⟩

theorem change_phase (phase : Phase row) (change : CampaignChange) : Phase (change.row now row) := by
  refine change_cases phase change now phase ?_ (fun drains => ?_) (fun _ _ => .closed rfl rfl rfl)
    fun fenced => .fenced (rollbackRequested_fenced fenced now)
  · cases phase with
    | idle open_ state action unauthorized => exact .idle open_ state action { unauthorized with }
    | draining drains unauthorized => exact .draining drains { unauthorized with }
    | fenced fenced => exact .fenced ⟨fenced.1,fenced.2⟩
    | closed open_ state action => exact .closed open_ state action
  · exact .idle rfl (.inr (.inr (.inl rfl))) (.inl (of_draining drains).2.2) { unauthorized_of_draining phase drains with }

theorem change_fenced (fenced : Fenced row) (change : CampaignChange) : Fenced (change.row now row) :=
  change_cases (.fenced fenced) change now fenced ⟨fenced.1,fenced.2⟩
    (fun drains => absurd drains (not_draining_of_fenced fenced)) (fun _ unfenced => absurd fenced unfenced)
    fun fenced => rollbackRequested_fenced fenced now

theorem change_active (phase : Phase row) (change : CampaignChange) : (change.row now row).active → row.active := by
  refine change_cases (motive := fun next => next.active → row.active) phase change now id id (fun drains _ => ?_)
    (fun _ _ active => ?_) fun fenced _ => fenced_active fenced
  · exact live_of_cordoned phase (of_draining drains).2.1
  · simp [Assignment.active,Assignment.cancelled,terminal] at active

theorem retried_key (row : Assignment) (now : Int) (kind : Assignment.RetryKind) : SameKey row (row.retried now kind) := by
  cases kind <;> exact ⟨rfl,rfl,rfl⟩

section

variable (known : row.retryKind campaign = some kind)
include known

theorem retry_cordoned : row.cordoned = decide (kind = .rollback) := by
  unfold Assignment.retryKind at known
  split_ifs at known with blocked revived
  · cases known
    simpa using blocked.2
  · cases known
    simpa using revived.2.1

theorem retried_fenced (rollback : kind = .rollback) : Fenced (row.retried now kind) := by
  have cordoned := retry_cordoned known
  subst rollback
  exact ⟨cordoned.trans (decide_eq_true rfl),.inr (.inl ⟨rfl,rfl⟩)⟩

theorem retried_phase : Phase (row.retried now kind) := by
  cases kind with
  | stage => exact .idle rfl (.inl rfl) (.inl rfl) ⟨rfl,rfl,rfl,rfl,rfl⟩
  | rollback => exact .fenced (retried_fenced known rfl)

end

end Campaigns

theorem step_subject (step : RowStep p s row input row' fence events) : ∀ event ∈ events, subject event = row := by
  intro _ mem
  cases step with
  | reported => obtain ⟨_,_,rfl⟩ | rfl := mem_reportEvents mem <;> rfl
  | activationAuthorized | reauthorized | recovered | succeeded =>
    rw [mem_singleton.mp mem]
    rfl
  | _ => simp at mem

inductive Moved (p : Primitives) (s : System) (row : Assignment) : Input → Assignment → List Event → Prop where
  | stays {input : Input} (events : List Event) (elsewhere : ∀ event ∈ events, (subject event).id ≠ row.id) :
      Moved p s row input row events
  | step {input : Input} (row' : Assignment) (fence : Option Bool) (events : List Event)
      (step : RowStep p s row input row' fence events) : Moved p s row input row' events
  | changed {key generation} (change now) :
      Moved p s row (.changeCampaign key generation change now) (change.row now row) []
  | retried {key generation ids} (campaign kind now) (known : row.retryKind campaign = some kind) :
      Moved p s row (.retry key generation ids now) (row.retried now kind) []

section

variable (moved : Moved p s row input row' events)
include moved

theorem Moved.key : SameKey row row' := by
  cases moved with
  | stays => exact ⟨rfl,rfl,rfl⟩
  | step _ _ _ step => exact step.key
  | changed change now => exact change_key change row now
  | retried _ kind now => exact retried_key row now kind

theorem Moved.phase (phase : Phase row) : Phase row' := by
  cases moved with
  | stays => exact phase
  | step _ _ _ step => exact step_phase phase step
  | changed change => exact change_phase phase change
  | retried _ _ _ known => exact retried_phase known

theorem Moved.fenced (fenced : Fenced row) (held : ∀ event ∈ events, ¬ releases row.id event) : Fenced row' := by
  cases moved with
  | stays => exact fenced
  | step _ _ _ step => exact step_fenced fenced step held
  | changed change => exact change_fenced fenced change
  | retried _ _ _ known =>
    have cordoned := retry_cordoned known
    exact retried_fenced known (of_decide_eq_true (cordoned.symm.trans fenced.cordoned))

end

theorem arms_subject {id : Nat} {event : Event} (arming : arms id event) : (subject event).id = id := by
  cases event with
  | authorized => exact arming
  | _ => exact arming.elim

theorem Moved.armed (moved : Moved p s row input row' events) (phase : Phase row)
    (arming : ∃ event ∈ events, arms row.id event) : Fenced row' := by
  cases moved with
  | stays _ elsewhere =>
    obtain ⟨event,mem,arming⟩ := arming
    exact absurd (arms_subject arming) (elsewhere event mem)
  | step _ _ _ step => exact step_armed phase step arming
  | changed | retried => simp at arming

end P2pstream.AgentUpdatePhases
