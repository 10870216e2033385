import P2pstream.AgentUpdateEvidence

/-! The live cordon set against the stored cordons. The set is keyed by agent while
cordons are stored by assignment, so publishing the rows of one campaign is exact
only for agents that no other campaign has fenced.
-/
namespace P2pstream.AgentUpdateFences
open Library Kernel.AgentUpdates Semantics.AgentUpdates Table AList List System AgentUpdateEvidence Transitions
open AgentUpdateSteps AgentUpdatePhases AgentUpdateInvariant

variable {p : Primitives} {s next : System} {input : Input} {events : List Event} {agent : Nat}

def Cordoned (s : System) (agent : Nat) : Prop :=
  ∃ id row, s.assignments.lookup id = some row ∧ row.agentID = agent ∧ row.cordoned = true

theorem cordoned_iff_live (consistent : Consistent s) : Cordoned s agent ↔
      ∃ row ∈ values s.assignments, row.agentID = agent ∧ row.active = true ∧ row.cordoned = true := by
  constructor
  · rintro ⟨id,row,stored,here,cordoned⟩
    exact ⟨row,mem_values_of_lookup _ _ _ stored,here,live_of_cordoned (consistent.phases id row stored) cordoned,cordoned⟩
  · rintro ⟨row,mem,here,_,cordoned⟩
    exact ⟨row.id,row,stored_of_mem consistent.keyed mem,here,cordoned⟩

theorem live_iff (consistent : Consistent s) : LiveCordons s ↔ ∀ agent, agent ∈ s.cordons ↔ Cordoned s agent := by
  refine forall_congr' fun _ => ?_
  rw [cordoned_iff_live consistent]

theorem mem_fenced (a : Nat) (cordons : List Nat) (fence : Bool) :
    agent ∈ fenced a cordons (some fence) ↔ if agent = a then fence = true else agent ∈ cordons := by
  cases fence <;> by_cases same : agent = a <;> simp [fenced,same]

theorem mem_published {holds : Prop} (rows : List (Nat × Bool)) (cordons : List Nat)
    (agree : ∀ item ∈ rows, item.1 = agent → (item.2 = true ↔ holds))
    (untouched : (∀ item ∈ rows, item.1 ≠ agent) → (agent ∈ cordons ↔ holds)) :
    agent ∈ published cordons rows ↔ holds := by
  induction rows generalizing cordons with
  | nil => exact untouched (by simp)
  | cons item _ ih =>
    refine ih (fenced item.1 cordons (some item.2)) (fun other mem => agree other (mem_cons_of_mem _ mem)) ?_
    intro elsewhere
    rw [mem_fenced]
    split_ifs with same
    · exact agree item mem_cons_self same.symm
    · refine untouched fun other mem => ?_
      rcases mem_cons.mp mem with rfl | later
      · exact Ne.symm same
      · exact elsewhere other later

variable {row row' : Assignment} {id campaign : Nat} {now : Int}

theorem cordoned_insert (stored : s.assignments.lookup row.id = some row)
    (table : next.assignments = s.assignments.insert row.id row') (key : SameKey row row')
    (different : agent ≠ row.agentID) : Cordoned next agent ↔ Cordoned s agent := by
  constructor
  · rintro ⟨id,other,found,here,cordoned⟩
    rw [table] at found
    rcases of_lookup_insert found with ⟨rfl,rfl⟩ | ⟨_,found⟩
    · exact absurd (here.symm.trans key.2.2) different
    · exact ⟨id,other,found,here,cordoned⟩
  · rintro ⟨id,other,found,here,cordoned⟩
    have same : id ≠ row.id := by
      rintro rfl
      cases stored.symm.trans found
      exact different here.symm
    exact ⟨id,other,by rw [table,lookup_insert_ne same]; exact found,here,cordoned⟩

theorem cordoned_of_row (consistent : Consistent s) (stored : s.assignments.lookup id = some row)
    (active : row.active = true) : Cordoned s row.agentID ↔ row.cordoned = true := by
  constructor
  · rintro ⟨other,row',found,here,cordoned⟩
    have same := consistent.unique other id row' row found stored
      (live_of_cordoned (consistent.phases other row' found) cordoned) active here
    subst same
    cases found.symm.trans stored
    exact cordoned
  · exact fun cordoned => ⟨id,row,stored,rfl,cordoned⟩

theorem cordoned_replaced (consistent : Consistent s) (stored : s.assignments.lookup row.id = some row)
    (active : row.active = true) (table : next.assignments = s.assignments.insert row.id row') (key : SameKey row row') :
    Cordoned next row.agentID ↔ row'.cordoned = true := by
  constructor
  · rintro ⟨id,other,found,here,cordoned⟩
    rw [table] at found
    rcases of_lookup_insert found with ⟨rfl,rfl⟩ | ⟨same,found⟩
    · exact cordoned
    · have live := live_of_cordoned (consistent.phases id other found) cordoned
      exact absurd (consistent.unique id row.id other row found stored live active here) same
  · exact fun cordoned => ⟨row.id,row',by rw [table]; exact lookup_insert _,key.2.2,cordoned⟩

theorem cordoned_map (f : Assignment → Assignment) (table : next.assignments = mapValues f s.assignments)
    (same : ∀ id row, s.assignments.lookup id = some row → row.agentID = agent →
      (f row).agentID = agent ∧ (f row).cordoned = row.cordoned)
    (only : ∀ id row, s.assignments.lookup id = some row → (f row).agentID = row.agentID) :
    Cordoned next agent ↔ Cordoned s agent := by
  constructor
  · rintro ⟨id,_,found,here,cordoned⟩
    rw [table,lookup_mapValues,Option.map_eq_some_iff] at found
    obtain ⟨row,stored,rfl⟩ := found
    rw [only id row stored] at here
    exact ⟨id,row,stored,here,(same id row stored here).2.symm.trans cordoned⟩
  · rintro ⟨id,row,stored,here,cordoned⟩
    refine ⟨id,f row,by rw [table,lookup_mapValues,stored]; rfl,(same id row stored here).1,?_⟩
    exact (same id row stored here).2.trans cordoned

theorem rewritten_live (f : Assignment → Assignment)
    (moves : ∀ row ∈ values s.assignments, f row = row ∨ RowStep p s row input (f row) none [])
    (table : next.assignments = mapValues f s.assignments) : Cordoned next agent ↔ Cordoned s agent := by
  have moved {id : Nat} {row : Assignment} (stored : s.assignments.lookup id = some row) :
      (f row).agentID = row.agentID ∧ (f row).cordoned = row.cordoned := by
    rcases moves row (mem_values_of_lookup _ _ _ stored) with same | step
    · rw [same]
      exact ⟨rfl,rfl⟩
    · exact ⟨step.key.2.2,step_cordoned step⟩
  refine cordoned_map f table (fun id row stored here => ?_) (fun _ _ stored => (moved stored).1)
  exact ⟨(moved stored).1.trans here,(moved stored).2⟩

theorem created_live {canaries : Int} {agents : List Nat} (consistent : Consistent s)
    (table : next.assignments = (s.insertAssignments s.nextCampaign canaries now 0 agents).assignments) :
    Cordoned next agent ↔ Cordoned s agent := by
  constructor
  · rintro ⟨id,row,found,here,cordoned⟩
    rw [table] at found
    rcases insertAssignments_origin _ _ _ _ _ _ found with stored | ⟨⟨_,_,_,_,_,_,_,rfl⟩,_⟩
    · exact ⟨id,row,stored,here,cordoned⟩
    · cases cordoned
  · rintro ⟨id,row,stored,here,cordoned⟩
    refine ⟨id,row,?_,here,cordoned⟩
    rw [table,insertAssignments_kept _ _ _ _ _ _ (consistent.bounded id row stored).1]
    exact stored

theorem reloaded_live (consistent : Consistent s) (table : next.assignments = s.assignments) :
    agent ∈ s.reloadAgentUpdateCordons.cordons ↔ Cordoned next agent := by
  have same : Cordoned next agent ↔ Cordoned s agent := by simp only [Cordoned,table]
  rw [same,cordoned_iff_live consistent]
  simp only [reloadAgentUpdateCordons,mem_map,mem_filter,Bool.and_eq_true]
  constructor
  · rintro ⟨row,⟨mem,cordoned,active⟩,here⟩
    exact ⟨row,mem,here,active,cordoned⟩
  · rintro ⟨row,mem,here,active,cordoned⟩
    exact ⟨row,⟨mem,cordoned,active⟩,here⟩

/-- Pausing or cancelling a campaign finds no agent of it fenced by another one. -/
def publishesOwnFences (s : System) : Input → Bool
  | .changeCampaign campaign _ change _ =>
    change = .resume || (values s.assignments).all fun row => row.campaignID ≠ campaign ||
      (values s.assignments).all fun other =>
        other.agentID ≠ row.agentID || !other.active || !other.cordoned || other.campaignID = campaign
  | _ => true

variable {expectedGeneration : Int} {change : CampaignChange} {f : Assignment → Assignment} {key : Nat}
  {ids : List Nat} {rows : List (Assignment × Assignment.RetryKind)}

section

variable (table : next.assignments = (s.changeRows campaign f).assignments)
include table

theorem changed_row (found : next.assignments.lookup id = some row') :
    ∃ row, s.assignments.lookup id = some row ∧ row' = if row.campaignID = campaign then f row else row := by
  rw [table] at found
  obtain ⟨row,stored,same⟩ := Option.map_eq_some_iff.mp ((lookup_mapValues _ _ _).symm.trans found)
  exact ⟨row,stored,same.symm⟩

theorem changed_stored (stored : s.assignments.lookup id = some row) :
    next.assignments.lookup id = some (if row.campaignID = campaign then f row else row) := by
  rw [table]
  refine (lookup_mapValues _ _ _).trans ?_
  rw [stored]
  rfl

end

theorem resumed_live
    (table : next.assignments = (s.changeRows campaign (CampaignChange.row now · .resume)).assignments) :
    Cordoned next agent ↔ Cordoned s agent := by
  have kept (row : Assignment) : SameKey row (CampaignChange.row now row .resume) ∧
      (CampaignChange.row now row .resume).cordoned = row.cordoned := by
    refine ⟨change_key .resume row now,?_⟩
    simp only [CampaignChange.row,Assignment.resume]
    split_ifs <;> rfl
  have written : next.assignments = mapValues (fun row =>
      if row.campaignID = campaign then CampaignChange.row now row .resume else row) s.assignments := table
  refine cordoned_map _ written (fun id row stored here => ?_) (fun _ row _ => ?_)
  · split_ifs
    · exact ⟨(kept row).1.2.2.trans here,(kept row).2⟩
    · exact ⟨here,rfl⟩
  · split_ifs
    · exact (kept row).1.2.2
    · rfl

theorem published_live (consistent : Consistent s)
    (consistent' : Consistent next) (live : ∀ agent, agent ∈ s.cordons ↔ Cordoned s agent)
    (own : publishesOwnFences s (.changeCampaign campaign expectedGeneration change now) = true)
    (closes : change ≠ .resume) (table : next.assignments = (s.changeRows campaign (change.row now)).assignments) :
    agent ∈ published s.cordons (next.campaignCordons campaign) ↔ Cordoned next agent := by
  have key (row : Assignment) : SameKey row (if row.campaignID = campaign then change.row now row else row) := by
    split_ifs
    · exact change_key change row now
    · exact ⟨rfl,rfl,rfl⟩
  apply mem_published
  · intro _ mem here
    simp only [campaignCordons,mem_map,mem_filter,decide_eq_true_eq] at mem
    obtain ⟨row',⟨mem,inside⟩,rfl⟩ := mem
    have found := stored_of_mem consistent'.keyed mem
    refine ⟨fun cordoned => ⟨row'.id,row',found,here,cordoned⟩,?_⟩
    rintro ⟨id,other',found',here',cordoned⟩
    obtain ⟨row,stored,made⟩ := changed_row table found
    obtain ⟨other,stored',made'⟩ := changed_row table found'
    -- Either the cordon is of this campaign, or it is a foreign one, which the condition excludes.
    by_cases foreign : other.campaignID = campaign
    · have inside' : other'.campaignID = campaign := by rw [made',(key other).2.1,foreign]
      have same := consistent'.once id row'.id other' row' found' found (inside'.trans inside.symm) (here'.trans here.symm)
      rw [same] at found'
      cases found'.symm.trans found
      exact cordoned
    · rw [if_neg foreign] at made'
      subst made'
      have campaignID : row.campaignID = campaign := by
        rw [made,(key row).2.1] at inside
        exact inside
      have agents : other'.agentID = row.agentID := by
        rw [made,(key row).2.2] at here
        exact here'.trans here.symm
      have active := live_of_cordoned (consistent.phases _ _ stored') cordoned
      simp only [publishesOwnFences,Bool.or_eq_true,decide_eq_true_eq,closes,false_or,all_eq_true] at own
      have ends := (own row (mem_values_of_lookup _ _ _ stored)).resolve_left (by simp [campaignID]) other'
        (mem_values_of_lookup _ _ _ stored')
      exact absurd (by simpa [agents,active,cordoned] using ends) foreign
  · intro absent
    have outside {id : Nat} {row : Assignment} (stored : s.assignments.lookup id = some row)
        (here : row.agentID = agent) : row.campaignID ≠ campaign := by
      intro inside
      have found := changed_stored table stored
      have named := key row
      generalize (if row.campaignID = campaign then change.row now row else row) = row' at found named
      refine absent (row'.agentID,row'.cordoned) ?_ (named.2.2.trans here)
      simp only [campaignCordons,mem_map,mem_filter,decide_eq_true_eq]
      exact ⟨row',⟨mem_values_of_lookup _ _ _ found,named.2.1.trans inside⟩,rfl⟩
    refine (live agent).trans ⟨?_,?_⟩
    · rintro ⟨id,row,stored,here,cordoned⟩
      have found := changed_stored table stored
      rw [if_neg (outside stored here)] at found
      exact ⟨id,row,found,here,cordoned⟩
    · rintro ⟨id,_,found,here,cordoned⟩
      obtain ⟨row,stored,rfl⟩ := changed_row table found
      rw [(key row).2.2] at here
      rw [if_neg (outside stored here)] at cordoned
      exact ⟨id,row,stored,here,cordoned⟩

theorem retries_named {campaign : Campaign} (named : s.retries key campaign ids = some rows) :
    (∀ item ∈ rows, ∃ id ∈ ids, s.assignments.lookup id = some item.1 ∧ item.1.retryKind campaign.state = some item.2) ∧
    ∀ id ∈ ids, ∃ item ∈ rows, s.assignments.lookup id = some item.1 := by
  unfold retries at named
  induction ids generalizing rows with
  | nil =>
    obtain rfl : rows = [] := by simpa using named.symm
    exact ⟨by simp,by simp⟩
  | cons id rest ih =>
    rw [mapM_cons] at named
    simp only [Checks.bind_some,Checks.guard_some,Checks.pure_some] at named
    obtain ⟨_,⟨_,stored,_,_,known,rfl⟩,_,later,rfl⟩ := named
    obtain ⟨each,every⟩ := ih later
    constructor
    · intro item mem
      rcases mem_cons.mp mem with rfl | mem
      · exact ⟨id,mem_cons_self,stored,known⟩
      · obtain ⟨other,listed,rest⟩ := each item mem
        exact ⟨other,mem_cons_of_mem _ listed,rest⟩
    · intro other mem
      rcases mem_cons.mp mem with rfl | mem
      · exact ⟨_,mem_cons_self,stored⟩
      · obtain ⟨item,listed,rest⟩ := every other mem
        exact ⟨item,mem_cons_of_mem _ listed,rest⟩

theorem retryRows_key (now : Int) (campaign : CampaignState) (ids : List Nat) (row : Assignment) :
    SameKey row (retryRows now campaign ids row) := by
  unfold retryRows
  split_ifs
  · split
    · exact retried_key ..
    · exact ⟨rfl,rfl,rfl⟩
  · exact ⟨rfl,rfl,rfl⟩

theorem retried_live {campaign : Campaign} (consistent : Consistent s) (consistent' : Consistent next)
    (live : ∀ agent, agent ∈ s.cordons ↔ Cordoned s agent) (named : s.retries key campaign ids = some rows)
    (table : next.assignments = mapValues (retryRows now campaign.state ids) s.assignments) :
    agent ∈ published s.cordons (rows.map fun item => (item.1.agentID,decide (item.2 = .rollback))) ↔ Cordoned next agent := by
  obtain ⟨each,every⟩ := retries_named named
  apply mem_published
  · intro _ mem here
    obtain ⟨⟨row,kind⟩,retried,rfl⟩ := mem_map.mp mem
    obtain ⟨id,listed,stored,known⟩ := each _ retried
    -- The retried row is active, so it alone decides about its agent.
    have written : next.assignments.lookup id = some (row.retried now kind) := by
      rw [table,lookup_mapValues,stored,Option.map_some]
      simp only [retryRows,consistent.keyed id row stored,listed,if_true,known]
    have active : (row.retried now kind).active = true := by
      cases kind <;> rfl
    have agents : (row.retried now kind).agentID = agent := (retried_key row now kind).2.2.trans here
    have cordoned : row.cordoned = decide (kind = .rollback) := retry_cordoned known
    have column : (row.retried now kind).cordoned = decide (kind = .rollback) := by
      cases kind with
      | stage => rfl
      | rollback => exact cordoned
    rw [← agents,cordoned_of_row consistent' written active,column]
  · intro absent
    rw [live agent]
    refine (cordoned_map _ table (fun id row stored here => ?_) fun id row stored => ?_).symm
    · have unnamed : row.id ∉ ids := by
        intro listed
        obtain ⟨_,mem,stored'⟩ := every _ listed
        rw [consistent.keyed id row stored,stored] at stored'
        cases stored'
        exact absent _ (mem_map_of_mem mem) here
      simp [retryRows,unnamed,here]
    · exact (retryRows_key ..).2.2

theorem live_step (consistent : Consistent s) (live : LiveCordons s) (own : publishesOwnFences s input = true)
    (ok : step p s input = some (next,events)) : LiveCordons next := by
  have consistent' := consistent.step ok
  rw [live_iff consistent] at live
  rw [live_iff consistent']
  intro agent
  cases (consistent.outcome ok).change with
  | same _ _ table cordons =>
    rw [cordons,live agent]
    simp only [Cordoned,table]
  | one _ _ row _ fence _ stored _ step table cordons =>
    have active := step_active (consistent.phases _ _ stored) step
    rw [cordons]
    by_cases same : agent = row.agentID
    · subst same
      rw [cordoned_replaced consistent stored active table step.key,step_cordoned step]
      cases fence with
      | none => exact (live row.agentID).trans (cordoned_of_row consistent stored active)
      | some => simp [mem_fenced]
    · rw [cordoned_insert stored table step.key same,← live agent]
      cases fence with
      | none => rfl
      | some => simp [mem_fenced,same]
  | missed _ _ _ stored staged cordoned =>
    have idle := (idle_of_early (consistent.phases _ _ stored) (.inr (.inr staged))).1
    simp [cordoned] at idle
  | rewritten _ _ f moves table cordons => rw [cordons,live agent,rewritten_live f moves table]
  | changed _ _ _ _ _ table cordons =>
    rw [cordons]
    split_ifs with resumes
    · subst resumes
      rw [live agent,resumed_live table]
    · exact published_live consistent consistent' live own resumes table
  | retried _ _ _ _ _ _ named _ table cordons =>
    rw [cordons]
    exact retried_live consistent consistent' live named table
  | created _ _ _ _ _ _ table _ _ cordons => rw [cordons,live agent,created_live consistent table]
  | reloaded _ table cordons =>
    rw [cordons]
    exact reloaded_live consistent table

/-- In every run in which no pause or cancellation meets an agent fenced by another
campaign, the live cordon set is exact in every state. -/
theorem live_cordons_stored (p : Primitives) (inputs : List Input) (s : System) (past : List Event)
    (own : Transitions.Meets (step p) (fun s input => publishesOwnFences s input = true) initial inputs)
    (reached : run (step p) initial inputs = some (s,past)) : LiveCordons s := by
  have start : LiveCordons initial := by
    intro _
    simp [initial,values]
  exact (run_invariant (motive := fun s => Consistent s ∧ LiveCordons s) (fun _ _ _ _ holds own ok =>
    ⟨⟨holds.1.step ok,live_step holds.1 holds.2 own ok⟩,fun _ _ => trivial⟩) ⟨consistent_initial,start⟩ own reached).1.2

/-- An authorized agent is fenced, and cancelling its campaign keeps it so. -/
theorem live_cordons_stored_cancelled : ∃ s past, run (step trusting) initial
        (exampleAuthorized ++ [.changeCampaign 1 1 .cancel 9]) = some (s,past) ∧
      s.cordons = [1] ∧ LiveCordons s := by
  have own : Transitions.Meets (step trusting)
      (fun s input => publishesOwnFences s input = true) initial
      (exampleAuthorized ++ [.changeCampaign 1 1 .cancel 9]) :=
    meets_of_checks (fun _ _ checked => checked) (by decide)
  exact ⟨_,_,rfl,rfl,live_cordons_stored _ _ _ _ own rfl⟩

/-- Staging fails in a first campaign and the agent drains in a second one. Cancelling
the first publishes its finished row and lifts the fence of the second. -/
theorem cancel_lifts_foreign_fence : ∃ s past, run (step trusting) initial
        (exampleCampaign ++
          [.report (exampleReport 1 1 .failed none) 0,.createCampaign exampleTarget ⟨1,1,1,1,10000⟩ [1] 0,
            .report (exampleReport 2 2 .staged none) 0,.cordon 1 [] 0,
            .changeCampaign 1 2 .cancel 9]) = some (s,past) ∧ ¬ LiveCordons s := by
  refine ⟨_,_,rfl,fun live => ?_⟩
  have mem := (live 1).mpr ⟨_,mem_values_of_lookup _ 2 _ rfl,rfl,rfl,rfl⟩
  cases mem

end P2pstream.AgentUpdateFences
