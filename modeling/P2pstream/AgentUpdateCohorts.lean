import P2pstream.AgentUpdateBudget

/-! A campaign goes from cohort to cohort: nothing is staged, cordoned or authorized before all
assignments of the earlier cohorts have succeeded.
-/
namespace P2pstream.AgentUpdateCohorts
open Library Kernel.AgentUpdates Semantics.AgentUpdates Table Option List System Assignment Transitions Nat
open AgentUpdateSteps AgentUpdatePhases AgentUpdateInvariant AgentUpdateEvidence
open AgentUpdateBudget

variable {p : Primitives} {s next : System} {input : Input} {events : List Event} {id campaign : Nat}
  {row row' : Assignment} {policy : Policy} {count i j : Nat}

theorem cohort_self (policy : Policy) (within : i < count) : (cohort policy count i).1 ≤ i ∧ i < (cohort policy count i).2 := by
  unfold cohort
  dsimp only
  generalize min (max 1 policy.canaryCount.toNat) count = canaries
  have positive : 0 < max 1 policy.waveSize.toNat := lt_of_lt_of_le zero_lt_one (le_max_left _ _)
  generalize max 1 policy.waveSize.toNat = wave at positive
  split_ifs with first
  · exact ⟨zero_le _,first⟩
  · have below := div_mul_le_self (i - canaries) wave
    have above : i - canaries < (i - canaries) / wave * wave + wave := lt_div_mul_add positive
    constructor
    · omega
    · apply lt_min
      · omega
      · exact within

theorem cohort_same (lower : (cohort policy count i).1 ≤ j) (upper : j < (cohort policy count i).2) :
    cohort policy count j = cohort policy count i := by
  unfold cohort at lower upper ⊢
  dsimp only at lower upper ⊢
  generalize min (max 1 policy.canaryCount.toNat) count = canaries at lower upper ⊢
  generalize max 1 policy.waveSize.toNat = wave at lower upper ⊢
  by_cases canary : i < canaries
  · rw [if_pos canary] at upper ⊢
    exact if_pos upper
  · rw [if_neg canary] at lower upper ⊢
    have start : (i - canaries) / wave * wave ≤ j - canaries := by omega
    have stop : j - canaries < ((i - canaries) / wave + 1) * wave := by
      rw [add_mul]
      omega
    have later : ¬ j < canaries := by omega
    rw [if_neg later,Nat.div_eq_of_lt_le start stop]

theorem cohort_canary (within : i < count) (canary : (i : Int) < policy.canaryCount) : (cohort policy count i).1 = 0 := by
  unfold cohort
  rw [if_pos]
  apply lt_min
  · omega
  · exact within

theorem stageCohort_eq (policy : Policy) (count i : Nat) : stageCohort policy count i =
      (((cohort policy count i).1 : Int),((cohort policy count i).2 : Int)) := by
  have canaries : (if (count : Int) < (if policy.canaryCount < 1 then 1 else policy.canaryCount) then (count : Int)
      else if policy.canaryCount < 1 then 1 else policy.canaryCount) =
        ((min (max 1 policy.canaryCount.toNat) count : Nat) : Int) := by
    split_ifs <;> omega
  have wave : (if policy.waveSize < 1 then 1 else policy.waveSize) = ((max 1 policy.waveSize.toNat : Nat) : Int) := by
    split_ifs <;> omega
  unfold stageCohort cohort
  dsimp only
  rw [canaries,wave]
  generalize min (max 1 policy.canaryCount.toNat) count = first
  generalize max 1 policy.waveSize.toNat = size
  by_cases canary : i < first
  · rw [if_neg (by omega),if_pos canary]
    rfl
  · have start : (first : Int) + ((i : Int) - first) / size * size = ((first + (i - first) / size * size : Nat) : Int) := by
      push_cast [Nat.le_of_not_lt canary]
      rfl
    rw [if_pos (by omega),if_neg canary]
    congr 1
    split_ifs <;> omega

/-- The assignment waits for its cohort, or has ended without success. -/
structure Resting (row : Assignment) : Prop where
  cordoned : row.cordoned = false
  action : row.desiredAction = .none
  state : row.state = .pending ∨ row.state = .blocked ∨ row.state = .failed ∨ row.state = .cancelled

theorem rest_step {up : Option Bool} (rest : Resting row) (step : RowStep p s row input row' up events) :
    Resting row' ∨ Released s row := by
  have idle := rest.action
  have open_ := rest.cordoned
  cases step with
  | stageReleased _ _ _ released => exact .inr released
  | stageTimedOut => exact .inl ⟨open_,rfl,.inr (.inl rfl)⟩
  | cordoned _ staged => rcases rest.state with h | h | h | h <;> simp [h] at staged
  | drainTimedOut _ drains | drainUnwound _ _ drains | activationAuthorized _ _ drains =>
    simp [draining,open_] at drains
  | reauthorized _ _ _ desired => simp [idle,desiredActionAuth] at desired
  | reported _ _ _ _ _ _ _ _ evidence accepted =>
    cases report_move evidence accepted with
    | staging _ desired | staged _ desired | stageFailed _ desired | activated _ _ desired | rolledBack _ _ desired =>
      simp [idle] at desired
    | healthy _ proving => rcases rest.state with h | h | h | h <;> simp [h] at proving
    | blocked _ cordoned => simp [open_] at cordoned
  | evidenceTimedOut _ _ _ _ _ overdue => simp [evidenceOverdue,open_] at overdue
  | recovered _ _ _ _ recovers => simp [rollbackRecovered,open_] at recovers
  | succeeded _ _ _ _ succeeds =>
    rcases rest.state with h | h | h | h <;> simp [maySucceed,h] at succeeds
  | tunnel _ accepts => simp [acceptsTunnel,open_] at accepts
  | rootActionTimedOut _ cordoned => simp [open_] at cordoned

theorem rest_moved (phase : Phase row) (moved : Moved p s row input row' events) (rest : Resting row) :
    Resting row' ∨ Released s row := by
  cases moved with
  | stays => exact .inl rest
  | step _ _ _ step => exact rest_step rest step
  | changed change now =>
    left
    refine change_cases phase change now rest { rest with } (fun drains => ?_)
      (fun _ _ => ⟨rfl,rfl,.inr (.inr (.inr rfl))⟩) fun fenced => absurd fenced.cordoned (by simp [rest.cordoned])
    simp [draining,rest.cordoned] at drains
  | retried _ kind _ known =>
    cases kind with
    | stage => exact .inl ⟨rfl,rfl,.inl rfl⟩
    | rollback =>
      have cordoned := retry_cordoned known
      simp [rest.cordoned] at cordoned

theorem succeeded_stays (phase : Phase row) (moved : Moved p s row input row' events) (done : row.state = .succeeded) :
    row'.state = .succeeded := by
  have inactive : row.active = false := by simp [active,AssignmentState.terminal,done]
  cases moved with
  | stays => exact done
  | step _ _ _ step =>
    have active := step_active phase step
    simp [inactive] at active
  | changed change now =>
    cases change with
    | pause | resume => simp only [CampaignChange.row,pause,resume]; split_ifs <;> simp_all [drains]
    | cancel =>
      have stays : row.cancel now = row := by
        simp [cancel,reversible,needsRollback,AssignmentState.terminal,done]
      simpa only [CampaignChange.row,stays] using done
  | retried _ _ _ known => simp [retryKind,done] at known

theorem ids_sorted (s : System) (campaign : Nat) : ((s.campaignAssignments campaign).map (·.id)).Pairwise (· ≤ ·) := by
  rw [pairwise_map]
  exact pairwise_insertionSort (fun a b : Assignment => a.id ≤ b.id) _

theorem mem_ids (keyed : Keyed s) : id ∈ (s.campaignAssignments campaign).map (·.id) ↔
    ∃ row, s.assignments.lookup id = some row ∧ row.campaignID = campaign := by
  constructor
  · intro listed
    obtain ⟨row,mem,rfl⟩ := List.mem_map.mp listed
    obtain ⟨stored,own⟩ := mem_campaignAssignments mem
    exact ⟨row,stored_of_mem keyed stored,own⟩
  · rintro ⟨row,stored,own⟩
    apply List.mem_map.mpr
    refine ⟨row,?_,keyed id row stored⟩
    unfold campaignAssignments
    rw [mem_insertionSort,mem_filter]
    exact ⟨mem_values_of_lookup _ _ _ stored,by simpa using own⟩

theorem ids_nodup (keyed : Keyed s) : ((s.campaignAssignments campaign).map (·.id)).Nodup := by
  have keys : (values s.assignments).map (·.id) = s.assignments.keys := by
    unfold values AList.keys keys
    rw [List.map_map]
    apply map_congr_left
    intro entry mem
    exact keyed entry.1 entry.2 (lookup_of_mem_entries _ entry mem)
  have all : ((values s.assignments).map (·.id)).Nodup := by
    rw [keys]
    exact s.assignments.keys_nodup
  unfold campaignAssignments
  rw [((perm_insertionSort _ _).map _).nodup_iff]
  exact all.sublist (filter_sublist.map _)

section

variable (consistent : Consistent s) (outcome : Outcome p s input next events) (keyed : Keyed next)
  (old : campaign < s.nextCampaign)
include consistent outcome keyed old

theorem ids_kept : (next.campaignAssignments campaign).map (·.id) = (s.campaignAssignments campaign).map (·.id) := by
  apply List.Perm.eq_of_pairwise (fun _ _ _ _ => le_antisymm) (ids_sorted next campaign) (ids_sorted s campaign)
  apply (perm_ext_iff_of_nodup (ids_nodup keyed) (ids_nodup consistent.keyed)).mpr
  intro id
  rw [mem_ids keyed,mem_ids consistent.keyed]
  constructor
  · rintro ⟨row',found,own⟩
    rcases consistent.origin outcome found with ⟨row,stored,moved⟩ | ⟨_,_,_,_,_,_,_,_,_,_,rfl⟩
    · exact ⟨row,stored,moved.key.2.1.symm.trans own⟩
    · exact absurd own (ne_of_gt old)
  · rintro ⟨row,stored,own⟩
    obtain ⟨row',found,moved⟩ := change_kept consistent.keyed (consistent.bounded id row stored).1 outcome.change stored
    exact ⟨row',found,moved.key.2.1.trans own⟩

theorem place_kept (found : (next.campaignAssignments campaign)[i]? = some row') :
    ∃ row, (s.campaignAssignments campaign)[i]? = some row ∧ s.assignments.lookup row.id = some row ∧
      Moved p s row input row' events := by
  have same := congrArg (·[i]?) (ids_kept consistent outcome keyed old)
  simp only [List.getElem?_map,found,map_some] at same
  obtain ⟨row,present,key⟩ := map_eq_some_iff.mp same.symm
  have stored := stored_of_mem consistent.keyed (mem_campaignAssignments (mem_of_getElem? present)).1
  have stored' := stored_of_mem keyed (mem_campaignAssignments (mem_of_getElem? found)).1
  obtain ⟨moved,there,move⟩ := change_kept consistent.keyed (consistent.bounded row.id row stored).1 outcome.change stored
  rw [key,stored'] at there
  cases there
  exact ⟨row,present,stored,move⟩

end

theorem place_le {ids : List Nat} {bound value : Nat} (sorted : ids.Pairwise (· < ·)) (above : ∀ id ∈ ids, bound ≤ id)
    (found : ids[i]? = some value) : bound + i ≤ value := by
  induction ids generalizing i bound with
  | nil => exact nomatch found
  | cons first rest ih =>
    obtain ⟨smaller,later⟩ := pairwise_cons.mp sorted
    cases i with
    | zero =>
      cases found
      exact above _ mem_cons_self
    | succ =>
      have shifted : ∀ id ∈ rest, bound + 1 ≤ id := fun id mem =>
        lt_of_le_of_lt (above first mem_cons_self) (smaller id mem)
      have bounded := ih later shifted found
      omega

/-- All assignments of the cohorts before that of a place have succeeded. -/
def EarlierSucceeded (s : System) (campaign : Nat) (policy : Policy) (place : Nat) : Prop :=
  ∀ earlier other, earlier < (cohort policy (s.campaignAssignments campaign).length place).1 →
    (s.campaignAssignments campaign)[earlier]? = some other → other.state = .succeeded

structure Ordered (s : System) : Prop where
  consistent : Consistent s
  registered : ∀ id c, s.campaigns.lookup id = some c → id < s.nextCampaign
  joined : ∀ id row, s.assignments.lookup id = some row → ∃ c, s.campaigns.lookup row.campaignID = some c
  order : ∀ id c place row, s.campaigns.lookup id = some c → (s.campaignAssignments id)[place]? = some row →
    ¬ Resting row → EarlierSucceeded s id c.policy place

theorem released_order (consistent : Consistent s) (released : Released s row) {c : Campaign}
    (found : s.campaigns.lookup row.campaignID = some c) (here : (s.campaignAssignments row.campaignID)[i]? = some row) :
    EarlierSucceeded s row.campaignID c.policy i := by
  obtain ⟨campaign,stored,first,_,_,_,bounds,done,mem⟩ := released
  obtain rfl := some.inj (stored.symm.trans found)
  rw [stageCohort_eq campaign.policy] at bounds
  cases bounds
  rw [Int.toNat_natCast] at mem
  -- The row is in the range, at the only place with its id.
  obtain ⟨offset,place⟩ := mem_iff_getElem?.mp mem
  rw [List.getElem?_drop,List.getElem?_take] at place
  split_ifs at place with below
  have same : (cohort campaign.policy (s.campaignAssignments row.campaignID).length first).1 + offset = i := by
    have distinct : ((s.campaignAssignments row.campaignID).map (·.id)).Nodup := ids_nodup consistent.keyed
    have inside := (List.getElem?_eq_some_iff.mp place).1
    apply (List.getElem?_inj (by simpa using inside) distinct).mp
    rw [List.getElem?_map,List.getElem?_map,place,here]
  rw [same] at below
  intro earlier other before present
  rw [cohort_same (same ▸ le_add_right _ _) below] at before
  have listed : other ∈ (s.campaignAssignments row.campaignID).take
      (cohort campaign.policy (s.campaignAssignments row.campaignID).length first).1 := by
    apply mem_of_getElem?
    rw [List.getElem?_take,if_pos before,present]
  simpa using all_eq_true.mp done other listed

section

variable (consistent : Consistent s) (outcome : Outcome p s input next events) (keyed : Keyed next)
include consistent outcome keyed

theorem EarlierSucceeded.kept (old : campaign < s.nextCampaign) (earlier : EarlierSucceeded s campaign policy i) :
    EarlierSucceeded next campaign policy i := by
  have length : (next.campaignAssignments campaign).length = (s.campaignAssignments campaign).length := by
    simpa using congrArg length (ids_kept consistent outcome keyed old)
  intro place _ before present
  rw [length] at before
  obtain ⟨row,stood,stored,moved⟩ := place_kept consistent outcome keyed old present
  exact succeeded_stays (consistent.phases _ _ stored) moved (earlier place row before stood)

theorem created_order
    (unborn : s.nextCampaign ≤ campaign) {c : Campaign} (found : next.campaigns.lookup campaign = some c)
    (here : (next.campaignAssignments campaign)[i]? = some row') (awake : ¬ Resting row') :
    EarlierSucceeded next campaign c.policy i := by
  have fresh {id : Nat} {row : Assignment} (stored : next.assignments.lookup id = some row) (own : row.campaignID = campaign) :
      s.assignments.lookup id = none ∧ ∃ agents, Creation s next agents ∧ Inserted s s.nextCampaign agents id row := by
    rcases consistent.origin outcome stored with ⟨before,present,moved⟩ | new
    · have known := (consistent.bounded id before present).2
      rw [← moved.key.2.1,own] at known
      exact absurd unborn (Nat.not_le_of_lt known)
    · exact new
  obtain ⟨listed,own⟩ := mem_campaignAssignments (mem_of_getElem? here)
  have stored := stored_of_mem keyed listed
  obtain ⟨absent,_,creation,inserted⟩ := fresh stored own
  obtain ⟨_,present,staged⟩ := creation.staged
  obtain ⟨_,_,_,_,_,_,_,made⟩ := inserted
  have action : row'.desiredAction ≠ .none := by
    intro idle
    apply awake
    exact ⟨by rw [made]; rfl,idle,.inl (by rw [made]; rfl)⟩
  have same : campaign = s.nextCampaign := by
    rw [← own,made]
    rfl
  subst same
  cases present.symm.trans found
  have early := staged _ _ stored absent action
  have above : ∀ id ∈ (next.campaignAssignments s.nextCampaign).map (·.id), s.nextAssignment ≤ id := by
    intro _ mem
    obtain ⟨_,there,its⟩ := (mem_ids keyed).mp mem
    obtain ⟨_,_,_,_,_,_,_,rfl,_⟩ := fresh there its
    exact le_add_right _ _
  have growing : ((next.campaignAssignments s.nextCampaign).map (·.id)).Pairwise (· < ·) :=
    ((ids_sorted next _).and (ids_nodup keyed)).imp fun both => lt_of_le_of_ne both.1 both.2
  have place : s.nextAssignment + i ≤ row'.id := place_le growing above (by rw [List.getElem?_map,here]; rfl)
  have within := (List.getElem?_eq_some_iff.mp here).1
  intro _ _ before
  rw [cohort_canary within (by omega)] at before
  exact absurd before (not_lt_zero _)

end

theorem ordered_initial : Ordered initial :=
  ⟨consistent_initial,(fun _ _ impossible => nomatch impossible),(fun _ _ impossible => nomatch impossible),
    (fun _ _ _ _ impossible => nomatch impossible)⟩

theorem Ordered.step (ordered : Ordered s) (ok : step p s input = some (next,events)) : Ordered next := by
  have consistent := ordered.consistent
  have outcome := consistent.outcome ok
  have after := consistent.step ok
  refine ⟨after,fun id c found => ?_,fun id row found => ?_,fun id c place row' found here awake => ?_⟩
  · rcases outcome.carried.policies id c found with ⟨old,stored,_⟩ | ⟨_,below,_⟩
    · exact (ordered.registered id old stored).trans_le outcome.carried.campaigns
    · exact below
  · rcases consistent.origin outcome found with ⟨old,stored,moved⟩ | ⟨_,_,creation,_,_,_,_,_,_,_,rfl⟩
    · obtain ⟨c,joined⟩ := ordered.joined id old stored
      obtain ⟨c',present,_⟩ := outcome.carried.targets _ c (consistent.bounded id old stored).2 joined
      rw [moved.key.2.1]
      exact ⟨c',present⟩
    · obtain ⟨c,present,_⟩ := creation.staged
      exact ⟨c,present⟩
  · rcases outcome.carried.policies id c found with ⟨old,stored,policy⟩ | ⟨unborn,_⟩
    · have known := ordered.registered id old stored
      obtain ⟨row,stood,kept,moved⟩ := place_kept consistent outcome after.keyed known here
      rw [policy]
      apply EarlierSucceeded.kept consistent outcome after.keyed known
      by_cases rest : Resting row
      · rcases rest_moved (consistent.phases _ _ kept) moved rest with still | released
        · exact absurd still awake
        · obtain ⟨_,own⟩ := mem_campaignAssignments (mem_of_getElem? stood)
          subst own
          exact released_order consistent released stored stood
      · exact ordered.order id old place row stored stood rest
    · exact created_order consistent outcome after.keyed unborn found here awake

/-- The assignment stands in its campaign behind cohorts that have succeeded. -/
def InTurn (s : System) (row : Assignment) : Prop :=
  ∃ c place, s.campaigns.lookup row.campaignID = some c ∧ (s.campaignAssignments row.campaignID)[place]? = some row ∧
    EarlierSucceeded s row.campaignID c.policy place

theorem Ordered.inTurn (ordered : Ordered s) (stored : s.assignments.lookup id = some row) (awake : ¬ Resting row) :
    InTurn s row := by
  obtain ⟨c,joined⟩ := ordered.joined id row stored
  have key := ordered.consistent.keyed id row stored
  have listed : row.id ∈ (s.campaignAssignments row.campaignID).map (·.id) :=
    (mem_ids ordered.consistent.keyed).mpr ⟨row,key ▸ stored,rfl⟩
  obtain ⟨other,mem,same⟩ := List.mem_map.mp listed
  have equal : other = row := by
    have found := stored_of_mem ordered.consistent.keyed (mem_campaignAssignments mem).1
    rw [same,key,stored] at found
    exact (some.inj found).symm
  subst equal
  obtain ⟨place,here⟩ := mem_iff_getElem?.mp mem
  exact ⟨c,place,joined,here,ordered.order _ c place other joined here awake⟩

theorem authorized_awake (change : Change p s input next events) {authorization : Authorization}
    (shown : .authorized row authorization ∈ events) : s.assignments.lookup row.id = some row ∧ ¬ Resting row := by
  cases change with
  | one _ _ _ _ _ _ stored _ step =>
    cases step with
    | activationAuthorized _ _ drains =>
      obtain ⟨rfl,_⟩ := Event.authorized.inj (mem_singleton.mp shown)
      refine ⟨stored,fun rest => ?_⟩
      simp [draining,rest.cordoned] at drains
    | reauthorized _ _ _ desired =>
      obtain ⟨rfl,_⟩ := Event.authorized.inj (mem_singleton.mp shown)
      refine ⟨stored,fun rest => ?_⟩
      simp [rest.action,desiredActionAuth] at desired
    | reported => rcases mem_reportEvents shown with ⟨_,_,same⟩ | same <;> cases same
    | _ => simp at shown
  | _ => simp at shown

/-- In every run, whatever is released for staging, cordoned or authorized stands behind cohorts
that have all succeeded, and the cohorts that are staged are those that are activated. -/
theorem cohort_order (p : Primitives) (inputs : List Input) (s : System) (past : List Event)
    (reached : run (step p) initial inputs = some (s,past)) :
    (∀ id row, s.assignments.lookup id = some row → ¬ Resting row → InTurn s row) ∧
    (∀ input next events, step p s input = some (next,events) →
      (∀ row authorization, .authorized row authorization ∈ events → InTurn s row) ∧
      (∀ id row row', s.assignments.lookup id = some row → next.assignments.lookup id = some row' →
        row.cordoned = false → row'.cordoned = true → InTurn s row)) ∧
    (∀ (policy : Policy) (count place : Nat), place < count → stageCohort policy count place =
          (((cohort policy count place).1 : Int),((cohort policy count place).2 : Int)) ∧
        (cohort policy count place).1 ≤ place ∧ place < (cohort policy count place).2 ∧
        ∀ other, (cohort policy count place).1 ≤ other → other < (cohort policy count place).2 →
          cohort policy count other = cohort policy count place) := by
  have ordered : Ordered s := run_kept (fun _ _ _ _ => Ordered.step) ordered_initial reached
  refine ⟨fun id row stored awake => ordered.inTurn stored awake,fun input next events ok => ?_,
    fun policy count place within => ?_⟩
  · have outcome := ordered.consistent.outcome ok
    constructor
    · intro row _ shown
      obtain ⟨stored,awake⟩ := authorized_awake outcome.change shown
      exact ordered.inTurn stored awake
    · intro id _ row' stored found uncordoned cordoned
      apply ordered.inTurn stored
      rcases change_fences ordered.consistent outcome.change with ⟨other,_,cordoning⟩ | same
      · by_cases chosen : id = other.id
        · rw [chosen,cordoning.stored] at stored
          cases stored
          intro rest
          have staged := cordoning.staged
          rcases rest.state with h | h | h | h <;> simp [h] at staged
        · rw [cordoning.table,AList.lookup_insert_ne chosen,stored] at found
          cases found
          simp [uncordoned] at cordoned
      · obtain ⟨_,there,fence,_⟩ := same id row' found cordoned
        cases there.symm.trans stored
        simp [uncordoned] at fence
  · obtain ⟨lower,upper⟩ := cohort_self policy within
    exact ⟨stageCohort_eq policy count place,lower,upper,fun other => cohort_same⟩

/-- Two cohorts of one agent each: the canary succeeds, then the second one is released. -/
def exampleCohorts : List Input := exampleCampaign.take 2 ++ .createCampaign exampleTarget ⟨1,1,1,1,10000⟩ [1,2] 0 ::
    exampleProving.drop 3 ++ [.reconcile 1 10000000007,.releaseCohort 1 10000000007]

theorem cohort_order_released : ∃ s past row, run (step trusting) initial exampleCohorts = some (s,past) ∧
      s.assignments.lookup 2 = some row ∧ row.desiredAction = .stage ∧ InTurn s row := by
  refine ⟨_,_,_,rfl,rfl,rfl,(cohort_order trusting exampleCohorts _ _ rfl).1 2 _ rfl fun rest => ?_⟩
  cases rest.action

end P2pstream.AgentUpdateCohorts
