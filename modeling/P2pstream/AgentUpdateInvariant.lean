import P2pstream.AgentUpdatePhases

/-! The assignment table over whole runs: rows are stored under their ids, every row
is in a phase, a campaign has one row per agent and an agent one active row.
-/
namespace P2pstream.AgentUpdateInvariant
open Library Kernel.AgentUpdates Semantics.AgentUpdates Table AList Option List System
open AgentUpdateSteps AgentUpdatePhases

variable {p : Primitives} {s next : System} {input : Input} {events : List Event} {id : Nat} {row row' : Assignment}

theorem insertAssignments_kept (s : System) (campaign : Nat) (canaries now : Int) (index : Nat)
    (agents : List Nat) (below : id < s.nextAssignment) :
    (s.insertAssignments campaign canaries now index agents).assignments.lookup id = s.assignments.lookup id := by
  induction agents generalizing s index with
  | nil => rfl
  | cons _ _ ih =>
    refine (ih _ _ (below.trans (Nat.lt_succ_self _))).trans ?_
    exact lookup_insert_ne (Nat.ne_of_lt below)

def Inserted (s : System) (campaign : Nat) (agents : List Nat) (id : Nat) (row' : Assignment) : Prop :=
  ∃ place agent action now, id = s.nextAssignment + place ∧ agents[place]? = some agent ∧
    (action = .none ∨ action = .stage) ∧ row' = .inserted id campaign agent action now

theorem insertAssignments_origin (s : System) (campaign : Nat) (canaries now : Int) (index : Nat) (agents : List Nat)
    (found : (s.insertAssignments campaign canaries now index agents).assignments.lookup id = some row') :
    s.assignments.lookup id = some row' ∨ (Inserted s campaign agents id row' ∧
      (row'.desiredAction ≠ .none → (id : Int) + index < s.nextAssignment + canaries)) := by
  induction agents generalizing s index with
  | nil => exact .inl found
  | cons agent _ ih =>
    rcases ih _ _ found with stored | ⟨⟨place,other,action,time,rfl,mem,kind,made⟩,released⟩
    · rcases of_lookup_insert stored with ⟨rfl,rfl⟩ | ⟨_,stored⟩
      · refine .inr ⟨⟨0,agent,_,now,rfl,rfl,?_,rfl⟩,fun action => ?_⟩
        · split_ifs
          · exact .inr rfl
          · exact .inl rfl
        · split_ifs at action with early
          · change (s.nextAssignment : Int) + index < _
            omega
          · exact absurd rfl action
      · exact .inl stored
    · refine .inr ⟨⟨place + 1,other,action,time,?_,mem,kind,made⟩,fun action => ?_⟩
      · simp only
        omega
      · have bound := released action
        push_cast at bound ⊢
        omega

structure Creation (s next : System) (agents : List Nat) : Prop where
  distinct : agents.Nodup
  idle : ∀ agent ∈ agents, s.activeAssignments agent = []
  counter : next.nextAssignment = s.nextAssignment + agents.length
  campaign : next.nextCampaign = s.nextCampaign + 1
  rows : ∀ id row', next.assignments.lookup id = some row' → s.assignments.lookup id = none →
    Inserted s s.nextCampaign agents id row'
  staged : ∃ c, next.campaigns.lookup s.nextCampaign = some c ∧ ∀ id row', next.assignments.lookup id = some row' →
    s.assignments.lookup id = none → row'.desiredAction ≠ .none → (id : Int) < s.nextAssignment + c.policy.canaryCount

theorem change_fresh (change : Change p s input next events) :
    (∀ id, s.assignments.lookup id = none → next.assignments.lookup id = none) ∨ ∃ agents, Creation s next agents := by
  cases change with
  | same _ _ table | missed _ _ _ _ _ _ table | reloaded _ table =>
    exact .inl fun id absent => by rw [table]; exact absent
  | one _ _ row _ _ _ stored _ _ table =>
    refine .inl fun id absent => ?_
    have other : id ≠ row.id := by
      rintro rfl
      simp [stored] at absent
    rw [table,lookup_insert_ne other]
    exact absent
  | rewritten _ _ _ _ table | retried _ _ _ _ _ _ _ _ table =>
    exact .inl fun id absent => by rw [table,lookup_mapValues,absent]; rfl
  | changed _ _ _ _ _ table =>
    refine .inl fun id absent => ?_
    rw [table]
    exact (lookup_mapValues _ _ _).trans (by rw [absent]; rfl)
  | created _ _ _ agents distinct idle table counter campaign _ policy =>
    obtain ⟨c,present,rfl⟩ := policy
    have origin {id : Nat} {row' : Assignment} (found : next.assignments.lookup id = some row')
        (absent : s.assignments.lookup id = none) := by
      rw [table] at found
      exact (insertAssignments_origin _ _ _ _ _ _ found).resolve_left (by simp [absent])
    exact .inr ⟨agents,distinct,idle,counter,campaign,fun _ _ found absent => (origin found absent).1,c,present,
      fun _ _ found absent action => by simpa using (origin found absent).2 action⟩

theorem change_kept (keyed : Keyed s) (below : id < s.nextAssignment) (change : Change p s input next events)
    (stored : s.assignments.lookup id = some row) :
    ∃ row', next.assignments.lookup id = some row' ∧ Moved p s row input row' events := by
  cases change with
  | same _ _ table | missed _ _ _ _ _ _ table | reloaded _ table => exact ⟨row,by rw [table]; exact stored,.stays [] (by simp)⟩
  | one _ _ other row' fence _ present _ step table =>
    by_cases same : id = other.id
    · subst same
      cases present.symm.trans stored
      exact ⟨row',by rw [table]; exact lookup_insert _,.step row' fence events step⟩
    · refine ⟨row,by rw [table,lookup_insert_ne same]; exact stored,.stays events fun event mem => ?_⟩
      rw [step_subject step event mem,keyed id row stored]
      exact Ne.symm same
  | rewritten _ _ f moves table =>
    refine ⟨f row,by rw [table,lookup_mapValues,stored]; rfl,?_⟩
    rcases moves row (mem_values_of_lookup _ _ _ stored) with same | step
    · rw [same]
      exact .stays [] (by simp)
    · exact .step _ none [] step
  | changed _ campaign _ change now table =>
    refine ⟨if row.campaignID = campaign then change.row now row else row,?_,?_⟩
    · rw [table]
      exact (lookup_mapValues _ _ _).trans (by rw [stored]; rfl)
    · split_ifs
      · exact .changed change now
      · exact .stays [] (by simp)
  | retried _ _ campaign ids now _ _ _ table =>
    refine ⟨retryRows now campaign.state ids row,by rw [table,lookup_mapValues,stored]; rfl,?_⟩
    unfold retryRows
    split_ifs
    · split
      next kind known => exact .retried campaign.state kind now known
      next => exact .stays [] (by simp)
    · exact .stays [] (by simp)
  | created _ _ _ _ _ _ table =>
    refine ⟨row,?_,.stays [] (by simp)⟩
    rw [table,insertAssignments_kept _ _ _ _ _ _ below]
    exact stored

structure Consistent (s : System) : Prop where
  keyed : Keyed s
  bounded : ∀ id row, s.assignments.lookup id = some row → id < s.nextAssignment ∧ row.campaignID < s.nextCampaign
  phases : ∀ id row, s.assignments.lookup id = some row → Phase row
  once : ∀ a b first second, s.assignments.lookup a = some first → s.assignments.lookup b = some second →
    first.campaignID = second.campaignID → first.agentID = second.agentID → a = b
  unique : ∀ a b first second, s.assignments.lookup a = some first → s.assignments.lookup b = some second →
    first.active = true → second.active = true → first.agentID = second.agentID → a = b

section

variable (consistent : Consistent s) (outcome : Outcome p s input next events)
include consistent outcome

theorem Consistent.origin (found : next.assignments.lookup id = some row') :
    (∃ row, s.assignments.lookup id = some row ∧ Moved p s row input row' events) ∨ (s.assignments.lookup id = none ∧
        ∃ agents, Creation s next agents ∧ Inserted s s.nextCampaign agents id row') := by
  cases stored : s.assignments.lookup id with
  | some row =>
    obtain ⟨kept,present,moved⟩ := change_kept consistent.keyed (consistent.bounded id row stored).1 outcome.change stored
    cases present.symm.trans found
    exact .inl ⟨row,rfl,moved⟩
  | none =>
    rcases change_fresh outcome.change with absent | ⟨agents,creation⟩
    · rw [absent id stored] at found
      cases found
    · exact .inr ⟨rfl,agents,creation,creation.rows id row' found stored⟩

theorem keyed_step : Keyed next := by
  intro id _ found
  rcases consistent.origin outcome found with ⟨row,stored,moved⟩ | ⟨_,_,_,_,_,_,_,_,_,_,rfl⟩
  · rw [moved.key.1]
    exact consistent.keyed id row stored
  · rfl

theorem bounded_step (found : next.assignments.lookup id = some row') :
    id < next.nextAssignment ∧ row'.campaignID < next.nextCampaign := by
  rcases consistent.origin outcome found with
    ⟨row,stored,moved⟩ | ⟨_,agents,creation,place,agent,action,now,rfl,mem,_,rfl⟩
  · obtain ⟨below,campaign⟩ := consistent.bounded id row stored
    rw [moved.key.2.1]
    exact ⟨below.trans_le outcome.carried.assignments,campaign.trans_le outcome.carried.campaigns⟩
  · have within : place < agents.length := (List.getElem?_eq_some_iff.mp mem).1
    rw [creation.counter,creation.campaign]
    exact ⟨by omega,Nat.lt_succ_self _⟩

theorem phases_step (found : next.assignments.lookup id = some row') : Phase row' := by
  rcases consistent.origin outcome found with ⟨row,stored,moved⟩ | ⟨_,_,_,_,_,_,_,_,_,kind,rfl⟩
  · exact moved.phase (consistent.phases id row stored)
  · exact .idle rfl (.inl rfl) kind ⟨rfl,rfl,rfl,rfl,rfl⟩

end

variable {a b : Nat} {first second : Assignment}

theorem inserted_once {agents : List Nat} (distinct : agents.Nodup)
    (one : Inserted s s.nextCampaign agents a first) (other : Inserted s s.nextCampaign agents b second)
    (agent : first.agentID = second.agentID) : a = b := by
  obtain ⟨i,x,_,_,rfl,mem,_,rfl⟩ := one
  obtain ⟨j,y,_,_,rfl,mem',_,rfl⟩ := other
  have chosen : x = y := agent
  have within : i < agents.length := (List.getElem?_eq_some_iff.mp mem).1
  have same : i = j := (List.getElem?_inj within distinct).mp (by rw [mem,mem',chosen])
  rw [same]

theorem once_step (consistent : Consistent s) (outcome : Outcome p s input next events)
    (one : next.assignments.lookup a = some first) (other : next.assignments.lookup b = some second)
    (campaign : first.campaignID = second.campaignID) (agent : first.agentID = second.agentID) : a = b := by
  rcases consistent.origin outcome one with ⟨row,stored,moved⟩ | ⟨_,_,creation,inserted⟩ <;>
    rcases consistent.origin outcome other with ⟨row',stored',moved'⟩ | ⟨absent,_,_,inserted'⟩
  · rw [moved.key.2.1,moved'.key.2.1] at campaign
    rw [moved.key.2.2,moved'.key.2.2] at agent
    exact consistent.once a b row row' stored stored' campaign agent
  · obtain ⟨_,_,_,_,_,_,_,rfl⟩ := inserted'
    have old := (consistent.bounded a row stored).2
    rw [moved.key.2.1] at campaign
    exact absurd campaign (Nat.ne_of_lt old)
  · obtain ⟨_,_,_,_,_,_,_,rfl⟩ := inserted
    have old := (consistent.bounded b row' stored').2
    rw [moved'.key.2.1] at campaign
    exact absurd campaign (Nat.ne_of_gt old)
  · exact inserted_once creation.distinct inserted (creation.rows b second other absent) agent

theorem unique_of_index (keyed : Keyed s) (index : s.oneActivePerAgent)
    (one : s.assignments.lookup a = some first) (other : s.assignments.lookup b = some second)
    (active : first.active) (active' : second.active) (agent : first.agentID = second.agentID) :
    a = b := by
  have mem := mem_values_of_lookup _ _ _ one
  have counted := all_eq_true.mp index first mem
  simp only [active,Bool.not_true,Bool.false_or,decide_eq_true_eq] at counted
  obtain ⟨only,single⟩ := length_eq_one_iff.mp counted
  have chosen {row : Assignment} (stored : row ∈ values s.assignments) (same : row.agentID = first.agentID)
      (live : row.active) : row = only := by
    have listed : row ∈ s.activeAssignments first.agentID := by simp [activeAssignments,stored,same,live]
    simpa [single] using listed
  have equal : first = second :=
    (chosen mem rfl active).trans (chosen (mem_values_of_lookup _ _ _ other) agent.symm active').symm
  rw [← keyed a first one,← keyed b second other,equal]

theorem change_index (consistent : Consistent s) (change : Change p s input next events) :
    next.oneActivePerAgent ∨ ∀ id row row', s.assignments.lookup id = some row →
      next.assignments.lookup id = some row' → row'.active → row.active := by
  cases change with
  | retried _ _ _ _ _ _ _ unique => exact .inl unique
  | same _ _ table | missed _ _ _ _ _ _ table | reloaded _ table =>
    refine .inr fun id row row' stored found active => ?_
    rw [table,stored] at found
    exact some.inj found ▸ active
  | one _ _ other _ _ _ present _ step table =>
    refine .inr fun id row row' stored found active => ?_
    by_cases same : id = other.id
    · subst same
      cases present.symm.trans stored
      exact step_active (consistent.phases _ _ present) step
    · rw [table,lookup_insert_ne same,stored] at found
      exact some.inj found ▸ active
  | rewritten _ _ _ moves table =>
    refine .inr fun id row row' stored found active => ?_
    rw [table,lookup_mapValues,stored] at found
    cases found
    rcases moves row (mem_values_of_lookup _ _ _ stored) with same | step
    · rwa [same] at active
    · exact step_active (consistent.phases _ _ stored) step
  | changed _ _ _ change _ table =>
    refine .inr fun id row row' stored found active => ?_
    rw [table] at found
    have written := (lookup_mapValues _ _ _).symm.trans found
    rw [stored] at written
    cases written
    dsimp only at active
    split_ifs at active
    · exact change_active (consistent.phases _ _ stored) change active
    · exact active
  | created _ _ _ _ _ _ table =>
    refine .inr fun id row _ stored found active => ?_
    rw [table,insertAssignments_kept _ _ _ _ _ _ (consistent.bounded id row stored).1,stored] at found
    exact some.inj found ▸ active

theorem unique_step (consistent : Consistent s) (outcome : Outcome p s input next events)
    (one : next.assignments.lookup a = some first) (other : next.assignments.lookup b = some second)
    (active : first.active) (active' : second.active) (agent : first.agentID = second.agentID) :
    a = b := by
  rcases change_index consistent outcome.change with index | revived
  · exact unique_of_index (keyed_step consistent outcome) index one other active active' agent
  -- An agent of a new campaign had no active row before.
  have idle {id place : Nat} {row row' : Assignment} {agents : List Nat} (creation : Creation s next agents)
      (stored : s.assignments.lookup id = some row) (found : next.assignments.lookup id = some row')
      (live : row'.active) (mem : agents[place]? = some row.agentID) : False := by
    have none := creation.idle _ (mem_of_getElem? mem)
    have listed : row ∈ s.activeAssignments row.agentID := by
      simp [activeAssignments,mem_values_of_lookup _ _ _ stored,revived id row row' stored found live]
    simp [none] at listed
  rcases consistent.origin outcome one with ⟨row,stored,moved⟩ | ⟨_,_,creation,inserted⟩ <;>
    rcases consistent.origin outcome other with ⟨row',stored',moved'⟩ | ⟨absent,_,creation',inserted'⟩
  · rw [moved.key.2.2,moved'.key.2.2] at agent
    exact consistent.unique a b row row' stored stored' (revived a row first stored one active)
      (revived b row' second stored' other active') agent
  · obtain ⟨place,_,_,_,_,mem,_,rfl⟩ := inserted'
    rw [moved.key.2.2] at agent
    exact (idle creation' stored one active (mem.trans (congrArg some agent.symm))).elim
  · obtain ⟨_,_,_,_,_,mem,_,rfl⟩ := inserted
    rw [moved'.key.2.2] at agent
    exact (idle creation stored' other active' (mem.trans (congrArg some agent))).elim
  · exact inserted_once creation.distinct inserted (creation.rows b second other absent) agent

theorem consistent_initial : Consistent initial := by
  constructor <;> intros <;> simp_all [initial,Keyed]

theorem Consistent.outcome (consistent : Consistent s) (ok : step p s input = some (next,events)) :
    Outcome p s input next events := step_outcome consistent.keyed input ok

theorem Consistent.step (consistent : Consistent s) (ok : step p s input = some (next,events)) : Consistent next where
  keyed := keyed_step consistent (consistent.outcome ok)
  bounded _ _ := bounded_step consistent (consistent.outcome ok)
  phases _ _ := phases_step consistent (consistent.outcome ok)
  once _ _ _ _ := once_step consistent (consistent.outcome ok)
  unique _ _ _ _ := unique_step consistent (consistent.outcome ok)

end P2pstream.AgentUpdateInvariant
