import P2pstream.AgentUpdateEvidence

/-! A campaign never takes more agents out of service than its policy allows.
-/
namespace P2pstream.AgentUpdateBudget
open Library Kernel.AgentUpdates Semantics.AgentUpdates Table List Option System Transitions
open AgentUpdateSteps AgentUpdatePhases AgentUpdateInvariant AgentUpdateEvidence

variable {p : Primitives} {s next : System} {input : Input} {events : List Event} {id campaign : Nat}
  {row row' : Assignment}

def fence (campaign : Nat) (row : Assignment) : Int := if row.campaignID = campaign ∧ row.cordoned = true then 1 else 0

theorem fence_nonneg (campaign : Nat) (row : Assignment) : 0 ≤ fence campaign row := by
  unfold fence
  split_ifs <;> decide

theorem unavailable_cordoned (phase : Phase row) :
    (row.cordoned || row.state = .activating || row.state = .awaitingTunnel || row.state = .healthyDwell) = row.cordoned := by
  cases phase with
  | idle open_ state => rcases state with h | h | h | h <;> simp [open_,h]
  | draining drains =>
    simp only [Assignment.draining,Bool.and_eq_true] at drains
    simp [drains.1.2]
  | fenced fenced => simp [fenced.cordoned]
  | closed open_ state =>
    have other : row.state = .succeeded ∨ row.state = .failed ∨ row.state = .cancelled := by
      unfold AssignmentState.terminal at state
      split at state <;> simp_all
    rcases other with h | h | h <;> simp [open_,h]

theorem countP_fences (rows : List Assignment) (phases : ∀ row ∈ rows, Phase row) :
    ((rows.filter fun row => row.campaignID = campaign).countP fun row =>
      row.cordoned || row.state = .activating || row.state = .awaitingTunnel || row.state = .healthyDwell : Int) =
      (rows.map (fence campaign)).sum := by
  induction rows with
  | nil => rfl
  | cons first _ ih =>
    have later := ih fun row mem => phases row (mem_cons_of_mem _ mem)
    have here := unavailable_cordoned (phases first mem_cons_self)
    rw [map_cons,sum_cons,← later,filter_cons]
    unfold fence
    by_cases own : first.campaignID = campaign
    · rw [if_pos (decide_eq_true own),countP_cons,here]
      by_cases cordoned : first.cordoned
      · rw [if_pos cordoned,if_pos ⟨own,cordoned⟩]
        omega
      · rw [if_neg cordoned,if_neg (fun both => cordoned both.2)]
        omega
    · rw [if_neg (by simpa using own)]
      omega

theorem unavailable_total (consistent : Consistent s) :
    (s.unavailableInCampaign campaign : Int) = total (fence campaign) s.assignments := by
  unfold unavailableInCampaign campaignAssignments total
  rw [(perm_insertionSort _ _).countP_eq]
  apply countP_fences
  intro row mem
  obtain ⟨id,found⟩ := lookup_of_mem_values _ mem
  exact consistent.phases id row found

structure Cordoning (s next : System) (row : Assignment) (now : Int) : Prop where
  stored : s.assignments.lookup row.id = some row
  admitted : Admitted s row
  staged : row.state = .staged
  uncordoned : row.cordoned = false
  table : next.assignments = s.assignments.insert row.id (row.cordon now)

theorem change_cordoned (phase : Phase row) (change : CampaignChange) {now : Int} :
    (change.row now row).cordoned → row.cordoned :=
  change_cases (motive := fun next => next.cordoned → row.cordoned) phase change now id id (fun _ never => nomatch never)
    (fun _ _ never => nomatch never) fun fenced _ => fenced.cordoned

theorem step_keeps {up : Option Bool} (step : RowStep p s row input row' up events) (quiet : up ≠ some true)
    (cordoned : row'.cordoned) : row.cordoned := by
  rw [step_cordoned step] at cordoned
  match up,quiet with
  | none,_ => exact cordoned
  | some false,_ => exact nomatch cordoned
  | some true,quiet => exact (quiet rfl).elim

def Kept (s next : System) : Prop := ∀ id row', next.assignments.lookup id = some row' → row'.cordoned = true →
    ∃ row, s.assignments.lookup id = some row ∧ row.cordoned = true ∧ row'.campaignID = row.campaignID

theorem change_fences (consistent : Consistent s) (change : Change p s input next events) :
    (∃ row now, Cordoning s next row now) ∨ Kept s next := by
  cases change with
  | same _ _ table | missed _ _ _ _ _ _ table | reloaded _ table =>
    refine .inr fun id row found cordoned => ⟨row,?_,cordoned,rfl⟩
    rwa [table] at found
  | one _ _ row _ up _ stored _ step table =>
    by_cases raised : up = some true
    · cases step with
      | cordoned now staged uncordoned admitted => exact .inl ⟨row,now,stored,admitted,staged,uncordoned,table⟩
      | reported =>
        split_ifs at raised
        exact nomatch raised
      | _ => exact nomatch raised
    · refine .inr fun id found present cordoned => ?_
      rw [table] at present
      rcases of_lookup_insert present with ⟨rfl,rfl⟩ | ⟨_,present⟩
      · exact ⟨row,stored,step_keeps step raised cordoned,step.key.2.1⟩
      · exact ⟨found,present,cordoned,rfl⟩
  | rewritten _ _ _ moves table =>
    refine .inr fun id found present cordoned => ?_
    rw [table,lookup_mapValues] at present
    obtain ⟨row,stored,rfl⟩ := map_eq_some_iff.mp present
    rcases moves row (mem_values_of_lookup _ _ _ stored) with same | step
    · rw [same] at cordoned ⊢
      exact ⟨row,stored,cordoned,rfl⟩
    · exact ⟨row,stored,step_keeps step (fun impossible => nomatch impossible) cordoned,step.key.2.1⟩
  | changed _ _ _ change now table =>
    refine .inr fun id found present cordoned => ?_
    rw [table] at present
    obtain ⟨row,stored,rfl⟩ := map_eq_some_iff.mp ((lookup_mapValues _ _ _).symm.trans present)
    refine ⟨row,stored,?_,?_⟩
    · split_ifs at cordoned
      · exact change_cordoned (consistent.phases _ _ stored) change cordoned
      · exact cordoned
    · split_ifs
      · exact (change_key change row now).2.1
      · rfl
  | retried _ _ _ _ now _ _ _ table =>
    refine .inr fun id found present cordoned => ?_
    rw [table,lookup_mapValues] at present
    obtain ⟨row,stored,rfl⟩ := map_eq_some_iff.mp present
    unfold retryRows at cordoned ⊢
    split_ifs at cordoned ⊢
    · split at cordoned
      · rename_i kind known
        refine ⟨row,stored,?_,(retried_key row now kind).2.1⟩
        cases kind with
        | stage => exact nomatch cordoned
        | rollback => exact cordoned
      · exact ⟨row,stored,cordoned,rfl⟩
    · exact ⟨row,stored,cordoned,rfl⟩
  | created _ _ _ _ _ _ table =>
    refine .inr fun _ found present cordoned => ?_
    rw [table] at present
    rcases insertAssignments_origin _ _ _ _ _ _ present with stored | ⟨⟨_,_,_,_,_,_,_,rfl⟩,_⟩
    · exact ⟨found,stored,cordoned,rfl⟩
    · cases cordoned

structure Within (s : System) : Prop where
  consistent : Consistent s
  budget : ∀ id c, s.campaigns.lookup id = some c → total (fence id) s.assignments ≤ c.policy.maxUnavailable

theorem fences_unborn (consistent : Consistent s) (unborn : s.nextCampaign ≤ id) : total (fence id) s.assignments = 0 := by
  apply total_eq_zero
  intro key row stored
  have old := (consistent.bounded key row stored).2
  exact if_neg fun both => absurd both.1 (Nat.ne_of_lt (old.trans_le unborn))

theorem within_initial : Within initial := ⟨consistent_initial,fun _ _ impossible => nomatch impossible⟩

theorem Within.step (within : Within s) (ok : step p s input = some (next,events)) : Within next := by
  have consistent := within.consistent
  have outcome := consistent.outcome ok
  refine ⟨consistent.step ok,fun id c found => ?_⟩
  have before : total (fence id) s.assignments ≤ c.policy.maxUnavailable := by
    rcases outcome.carried.policies id c found with ⟨old,stored,policy⟩ | ⟨unborn,_,_,normal⟩
    · rw [policy]
      exact within.budget id old stored
    · rw [fences_unborn consistent unborn]
      obtain ⟨bounds,same⟩ := ite_none_right_eq_some.mp normal
      rw [← Option.some.inj same]
      exact Int.le_trans (by decide) bounds.1
  rcases change_fences consistent outcome.change with ⟨row,now,cordoning⟩ | kept
  · rw [cordoning.table,total_insert (fence id) s.assignments cordoning.stored]
    have none : fence id row = 0 := if_neg fun both => by simp [cordoning.uncordoned] at both
    by_cases own : row.campaignID = id
    · -- The row is new among the fences of its campaign, which had room for it.
      have one : fence id (row.cordon now) = 1 := if_pos ⟨own,rfl⟩
      obtain ⟨campaign,_,stored,_,room⟩ := cordoning.admitted
      rw [own] at stored room
      rw [unavailable_total consistent] at room
      rcases outcome.carried.policies id c found with ⟨old,same,policy⟩ | ⟨_,_⟩
      · cases same.symm.trans stored
        rw [policy]
        omega
      · have old := (consistent.bounded row.id row cordoning.stored).2
        omega
    · have other : fence id (row.cordon now) = 0 := if_neg fun both => own both.1
      omega
  · refine (total_le (fence id) s.assignments next.assignments (fun _ row _ => fence_nonneg id row) ?_).trans before
    intro key row present
    by_cases counted : row.campaignID = id ∧ row.cordoned
    · obtain ⟨old,stored,cordoned,campaign⟩ := kept key row present counted.2
      refine .inr ⟨old,stored,?_⟩
      have same : fence id old = 1 := if_pos ⟨campaign ▸ counted.1,cordoned⟩
      rw [same]
      exact (if_pos counted).le
    · exact .inl (if_neg counted).le

/-- In every state of every run, at most `maxUnavailable` assignments of a campaign are cordoned,
activating, waiting for their tunnel or dwelling. -/
theorem unavailability_budget (p : Primitives) (inputs : List Input) (s : System) (past : List Event)
    (reached : run (step p) initial inputs = some (s,past)) (id : Nat) (campaign : Campaign)
    (found : s.campaigns.lookup id = some campaign) : (s.unavailableInCampaign id : Int) ≤ campaign.policy.maxUnavailable := by
  have within : Within s := run_kept (fun _ _ _ _ => Within.step) within_initial reached
  rw [unavailable_total within.consistent]
  exact within.budget id campaign found

/-- One agent is authorized to activate, which is all that its campaign allows. -/
theorem unavailability_budget_spent :
    ∃ s past campaign, run (step trusting) initial exampleAuthorized = some (s,past) ∧
      s.campaigns.lookup 1 = some campaign ∧ campaign.policy.maxUnavailable = 1 ∧ s.unavailableInCampaign 1 = 1 ∧
      (s.unavailableInCampaign 1 : Int) ≤ campaign.policy.maxUnavailable :=
  ⟨_,_,_,rfl,rfl,rfl,rfl,unavailability_budget trusting exampleAuthorized _ _ rfl 1 _ rfl⟩

end P2pstream.AgentUpdateBudget
