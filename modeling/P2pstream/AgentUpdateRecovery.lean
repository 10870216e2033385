import P2pstream.AgentUpdateRetention

/-! Recovery of a verified rollback. A health or failure report that is accepted after the rollback, on the
strength of the earlier activation, takes the row out of the only phase that recovers.
-/
namespace P2pstream.AgentUpdateRecovery
open Library Kernel.AgentUpdates Semantics.AgentUpdates Table System List Assignment Transitions
open AgentUpdateSteps AgentUpdatePhases AgentUpdateInvariant AgentUpdateEvidence AgentUpdateRetention

variable {p : Primitives} {s next : System} {input : Input} {past events : List Event} {row row' : Assignment} {conn : Conn}

theorem active_of_stored {campaign : Campaign} (consistent : Consistent s) (stored : s.assignments.lookup row.id = some row)
    (active : row.active) (joined : s.campaigns.lookup row.campaignID = some campaign) :
    s.activeAgentUpdateAssignment row.agentID = some (row,campaign) := by
  have distinct : (values s.assignments).Nodup := by
    refine List.Nodup.map_on (fun a here b there same => ?_) s.assignments.nodupKeys.nodup
    have first := consistent.keyed _ _ (lookup_of_mem_entries _ a here)
    have second := consistent.keyed _ _ (lookup_of_mem_entries _ b there)
    exact Sigma.ext (first.symm.trans ((congrArg Assignment.id same).trans second)) (heq_of_eq same)
  have alone : ∀ other, other ∈ s.activeAssignments row.agentID ↔ other = row := by
    intro other
    simp only [activeAssignments,mem_filter,Bool.and_eq_true,decide_eq_true_eq]
    constructor
    · rintro ⟨mem,own,live⟩
      have here := stored_of_mem consistent.keyed mem
      have same := consistent.unique _ _ _ _ here stored live active own
      exact Option.some.inj ((same ▸ here).symm.trans stored)
    · rintro rfl
      exact ⟨mem_values_of_lookup _ _ _ stored,rfl,active⟩
  have only : s.activeAssignments row.agentID = [row] := by
    refine perm_singleton.mp ((perm_ext_iff_of_nodup (distinct.filter _) (nodup_singleton row)).mpr ?_)
    exact fun other => (alone other).trans mem_singleton.symm
  simp [activeAgentUpdateAssignment,only,joined]

/-- The rollback of the assignment is verified and its fence is still up. -/
def rolledBack (row : Assignment) : Bool :=
  row.cordoned && row.authorization.action = some .rollback && row.root.completedAt.isSome

/-- A rolled back assignment whose agent is back over a tunnel that was recorded with the build of the receipt. -/
structure Returned (s : System) (row : Assignment) (conn : Conn) : Prop where
  stored : s.assignments.lookup row.id = some row
  rolled : rolledBack row = true
  unblocked : row.state ≠ .blocked
  tunnel : s.hub.lookup row.agentID = some conn
  fresh : row.freshTunnelAt = some conn.connectedAt
  build : conn.build = ⟨row.root.version,row.root.commit⟩
  observed : row.observed = conn.build

/-- Over each tunnel the row recovers, or it times out. -/
def Exits (row : Assignment) : Prop :=
  ∀ conn, rollbackRecovered row conn = true ∨ ∃ due, ∀ now, due ≤ now → evidenceOverdue row conn now = true

/-- No health or failure report comes for an assignment that is rolled back. -/
def spared (s : System) : Input → Bool
  | .report m _ => (s.assignments.lookup m.assignmentID).all fun row =>
      !rolledBack row || (m.state ≠ .healthy && m.state ≠ .failed)
  | _ => true

theorem of_rolledBack (rolled : rolledBack row) : row.cordoned ∧ row.authorization.action = some .rollback ∧
    row.root.completedAt.isSome := by
  simpa [rolledBack,and_assoc] using rolled

theorem exits_awaiting (rolled : rolledBack row) (awaits : row.state = .awaitingTunnel) : Exits row := by
  obtain ⟨cordoned,rollback,completed⟩ := of_rolledBack rolled
  obtain ⟨completedAt,completion⟩ := Option.isSome_iff_exists.mp completed
  intro conn
  by_cases complete : evidenceComplete row conn
  · exact .inl (by simp [rollbackRecovered,rollback,awaits,cordoned,completed,complete])
  · refine .inr ⟨completedAt + agentUpdatePostActionTimeout,fun now due => ?_⟩
    simp [evidenceOverdue,requiredEvidenceComplete,cordoned,awaits,completion,complete,due]

section

variable (recorded : Recorded p past s)
include recorded

theorem rolledBack_proving (stored : s.assignments.lookup row.id = some row) (rolled : rolledBack row)
    (unblocked : row.state ≠ .blocked) : row.state = .awaitingTunnel ∨ row.state = .healthyDwell := by
  obtain ⟨cordoned,rollback,completed⟩ := of_rolledBack rolled
  have phase := recorded.consistent.phases _ _ stored
  have idle := ((recorded.evidenced _ _ stored).receipt completed).1
  cases phase with
  | idle open_ | closed open_ => exact absurd (cordoned.symm.trans open_) (by simp)
  | draining _ unauthorized => exact absurd (rollback.symm.trans unauthorized.authorization) (by simp)
  | fenced fenced =>
    have phase := fenced.phase
    simpa [idle,unblocked] using phase

theorem returned_reconciled (returned : Returned s row conn) (now : Int) :
    step p s (.reconcile row.agentID now) = if row.state = .awaitingTunnel then
      some ((s.setAssignment (row.recovered now)).clearAgentUpdateCordon row.agentID,[.recovered row now]) else none := by
  obtain ⟨cordoned,rollback,completed⟩ := of_rolledBack returned.rolled
  obtain ⟨idle,campaign,action,joined,_,_,_,_,receipt,_,_,_,_,_,_,_,root⟩ :=
    (recorded.evidenced _ _ returned.stored).receipt completed
  have active := live_of_cordoned (recorded.consistent.phases _ _ returned.stored) cordoned
  have found := active_of_stored recorded.consistent returned.stored active joined
  have complete : evidenceComplete row (some conn) := by
    simp [evidenceComplete,returned.fresh,returned.observed,returned.build,root,storedRootResult]
  simp [step,reconcileAgentUpdateSuccess,found,idle,returned.tunnel,evidenceOverdue,
    requiredEvidenceComplete,complete,rollback,rollbackRecovered,maySucceed,cordoned,completed]

theorem report_kept {m : Report} {id : Nat} {now : Int} (stored : s.assignments.lookup id = some row) (rolled : rolledBack row)
    (spare : spared s (.report m now)) (ok : step p s (.report m now) = some (next,events)) :
    next.assignments.lookup id = some row := by
  obtain ⟨identity,_,reported⟩ := report_reported ok
  generalize s.fresh p identity m = named at reported
  cases reported with
  | acknowledged => exact stored
  | @accepted other campaign _ _ accepted =>
    obtain ⟨artifact,receipt,moved,counted,_,allowed,_,rfl,_⟩ := accepted.written
    have here := (active_found recorded.consistent.keyed accepted.found).stored
    rw [(settleReport_frame ..).1,setAssignment,(reported_key other m moved receipt now).1]
    by_cases same : id = other.id
    · -- What is left to report for the row asks for an action that it no longer has.
      subst same
      cases here.symm.trans stored
      have idle := ((recorded.evidenced _ _ here).receipt (of_rolledBack rolled).2.2).1
      have named : s.assignments.lookup m.assignmentID = some row := accepted.id ▸ here
      simp only [spared,named,Option.all_some,rolled] at spare
      revert allowed spare
      cases reports : m.state <;> simp [reportTransition,reports,idle]
    · exact (AList.lookup_insert_ne same).trans stored

end

/-- Only an accepted health report starts the dwell of a rolled back row. -/
theorem dwell_reported (evidenced : Evidenced p past s.campaigns row) (phase : Phase row) (moved : Moved p s row input row' events)
    (rolled : rolledBack row') (dwells : row'.state = .healthyDwell) :
    rolledBack row ∧ (row.state = .healthyDwell ∨ ∃ m now, input = .report m now) := by
  cases moved with
  | stays => exact ⟨rolled,.inl dwells⟩
  | step _ _ _ step =>
    cases step with
    | reported _ _ _ m receipt moved now _ evidence accepted =>
      have same : (row.reported p m moved receipt now).state = moved.state := rfl
      rw [same] at dwells
      cases report_move evidence accepted with
      | healthy => exact ⟨rolled,.inr ⟨m,now,rfl⟩⟩
      | _ => cases dwells
    | reauthorized _ _ _ desired =>
      have completed : row.root.completedAt.isSome := (of_rolledBack rolled).2.2
      rw [(evidenced.receipt completed).1] at desired
      cases desired
    | activationAuthorized => cases (of_rolledBack rolled).2.2
    | tunnel | stageReleased => exact ⟨rolled,.inl dwells⟩
    | _ => cases dwells
  | changed change now =>
    revert rolled dwells
    refine change_cases (motive := fun next => rolledBack next → next.state = .healthyDwell → _) phase change now
      (fun rolled dwells => ⟨rolled,.inl dwells⟩) (fun rolled dwells => ⟨rolled,.inl dwells⟩) ?_ ?_ ?_
    · exact fun _ _ dwells => (nomatch dwells)
    · exact fun _ _ _ dwells => (nomatch dwells)
    · exact fun _ rolled => absurd (of_rolledBack rolled).2.2 (by simp [rollbackRequested,withoutRootEvidence])
  | retried _ kind => cases kind <;> cases dwells

/-- In a run that spares rolled back assignments, none of them is in the dwell of an activation. -/
structure Sparing (p : Primitives) (past : List Event) (s : System) : Prop where
  recorded : Recorded p past s
  awaits : ∀ id row, s.assignments.lookup id = some row → rolledBack row → row.state ≠ .healthyDwell

theorem Sparing.step (sparing : Sparing p past s) (spare : spared s input) (ok : step p s input = some (next,events)) :
    Sparing p (past ++ events) next := by
  have recorded := sparing.recorded
  refine ⟨recorded.step ok,fun id row' found rolled dwells => ?_⟩
  rcases recorded.consistent.origin (recorded.consistent.outcome ok) found with ⟨row,stored,moved⟩ | ⟨_,_,_,_,_,_,_,_,_,_,rfl⟩
  · obtain ⟨before,dwelt | ⟨_,_,rfl⟩⟩ := dwell_reported (recorded.evidenced id row stored)
      (recorded.consistent.phases id row stored) moved rolled dwells
    · exact sparing.awaits id row stored before dwelt
    · cases found.symm.trans (report_kept recorded stored before spare ok)
      exact sparing.awaits id row' stored before dwells
  · cases dwells

/-- In every run that spares rolled back assignments, a verified rollback recovers with the next
reconciliation over its tunnel, recovers or times out over any other, and no report takes it there. -/
theorem verified_rollback_recovers (p : Primitives) (inputs : List Input) (s : System) (past : List Event)
    (spare : Meets (step p) (fun s input => spared s input = true) initial inputs)
    (reached : run (step p) initial inputs = some (s,past)) :
    (∀ row conn now, Returned s row conn → ∃ next, step p s (.reconcile row.agentID now) = some (next,[.recovered row now]) ∧
        next.assignments.lookup row.id = some (row.recovered now) ∧ row.agentID ∉ next.cordons) ∧
    ∀ id row, s.assignments.lookup id = some row → rolledBack row = true → row.state ≠ .blocked → Exits row ∧
      ∀ m now next events, step p s (.report m now) = some (next,events) → spared s (.report m now) = true →
        next.assignments.lookup id = some row := by
  have start : Sparing p [] initial := ⟨recorded_initial,by simp [initial]⟩
  have sparing : Sparing p ([] ++ past) s :=
    run_history (fun _ _ _ _ _ sparing spare ok => sparing.step spare ok) start spare reached
  have awaits {id : Nat} {row : Assignment} (stored : s.assignments.lookup id = some row) (rolled : rolledBack row)
      (unblocked : row.state ≠ .blocked) : row.state = .awaitingTunnel := by
    have key := sparing.recorded.consistent.keyed id row stored
    exact (rolledBack_proving sparing.recorded (key ▸ stored) rolled unblocked).resolve_right
      (sparing.awaits id row stored rolled)
  constructor
  · intro row conn now returned
    rw [returned_reconciled sparing.recorded returned,if_pos (awaits returned.stored returned.rolled returned.unblocked)]
    exact ⟨_,rfl,AList.lookup_insert _,by simp [clearAgentUpdateCordon]⟩
  · intro id row stored rolled unblocked
    exact ⟨exits_awaiting rolled (awaits stored rolled unblocked),
      fun m now next events ok spare => report_kept sparing.recorded stored rolled spare ok⟩

def exampleReturned : List Input := exampleRolledBack ++ [.connect 1 ⟨11,⟨"v1","c1"⟩⟩,.freshTunnel 1]

theorem verified_rollback_recovers_returned :
    ∃ s past row next, run (step trusting) initial exampleReturned = some (s,past) ∧
      step trusting s (.reconcile 1 12) = some (next,[.recovered row 12]) := by
  have ran : ∃ outcome row, run (step trusting) initial exampleReturned = some outcome ∧
      outcome.1.assignments.lookup 1 = some row ∧ Returned outcome.1 row ⟨11,⟨"v1","c1"⟩⟩ ∧ row.agentID = 1 :=
    ⟨_,_,rfl,rfl,⟨rfl,rfl,nofun,rfl,rfl,rfl,rfl⟩,rfl⟩
  obtain ⟨⟨s,past⟩,row,ran,_,returned,agent⟩ := ran
  have spare : checks (step trusting) spared initial exampleReturned := by decide +kernel
  obtain ⟨next,ok,_⟩ := (verified_rollback_recovers trusting _ s past (meets_of_checks (fun _ _ => id) spare) ran).1 row _ 12
    returned
  exact ⟨s,past,row,next,ran,agent ▸ ok⟩

/-- A health report between the rollback and the reconnect strands the agent behind its fence, and so
does a failure report. -/
theorem report_strands : (∃ s past row, run (step trusting) initial (exampleRolledBack ++
        [.report (olderReport 5 .healthy none) 10,.connect 1 ⟨11,⟨"v1","c1"⟩⟩,.freshTunnel 1]) = some (s,past) ∧
      s.assignments.lookup 1 = some row ∧ Returned s row ⟨11,⟨"v1","c1"⟩⟩ ∧
      step trusting s (.reconcile 1 1000000000000000000) = none) ∧
    ∃ s past row, run (step trusting) initial (exampleRolledBack ++ [.report (olderReport 5 .failed none) 10]) = some (s,past) ∧
      s.assignments.lookup 1 = some row ∧ rolledBack row = true ∧ ¬ Exits row := by
  refine ⟨⟨_,_,_,rfl,rfl,⟨rfl,rfl,nofun,rfl,rfl,rfl,rfl⟩,rfl⟩,_,_,_,rfl,rfl,rfl,fun exits => ?_⟩
  rcases exits none with recovers | ⟨due,overdue⟩
  · cases recovers
  · cases overdue due (le_refl _)

end P2pstream.AgentUpdateRecovery
