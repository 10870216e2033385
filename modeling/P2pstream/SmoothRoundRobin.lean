import P2pstream.Kernel.LoadBalancer
import P2pstream.Library.Rotation

/-! Exactness of the smooth weighted round robin: every window as long as the total weight
chooses each candidate as often as its weight says.
-/
namespace P2pstream.SmoothRoundRobin
open Library Kernel.LoadBalancer Function List Rotation

variable {α : Type} {id position weight : α → Int} {cs : List α}

def total (weight : α → Int) (cs : List α) : Int := (cs.map fun c => normalizedWeight (weight c)).sum

structure Exact [DecidableEq α] (id weight : α → Int) (pick : (Int → Int) → α × (Int → Int)) (cs : List α) : Prop where
  sum : ∀ t, (cs.map fun c => after pick 0 t (id c)).sum = 0
  absent : ∀ t, ∀ i ∉ cs.map id, after pick 0 t i = 0
  above : ∀ t i, -total weight cs < after pick 0 t i
  periodic : ∀ t, after pick 0 (t * (total weight cs).toNat) = 0
  window : ∀ t, ∀ c ∈ cs, (Nat.count (fun k => chosen pick 0 (t + k) = c) (total weight cs).toNat : Int) =
    normalizedWeight (weight c)

theorem normalizedWeight_pos (w : Int) : 0 < normalizedWeight w := by
  unfold normalizedWeight
  split_ifs <;> omega

/-- What the loop has done once it went over the candidates. -/
structure Passed (id weight : α → Int) (cs : List α) (f : Int → Int) (pass : Pass α) : Prop where
  total : pass.total = total weight cs
  added : ∀ c ∈ cs, pass.smooth (id c) = f (id c) + normalizedWeight (weight c)
  set : ∀ c ∈ cs, pass.bestSet = true
  best : pass.bestSet = true → pass.best ∈ cs
  greatest : ∀ c ∈ cs, pass.smooth (id c) ≤ pass.smooth (id pass.best)
  others : ∀ i ∉ cs.map id, pass.smooth i = f i

variable [Inhabited α]

-- The identifier of the last candidate is fresh, so the counters compared before stay as they are.
theorem passed (position weight : α → Int) (distinct : (cs.map id).Nodup) (f : Int → Int) :
    Passed id weight cs f (cs.foldl (consider id position weight) ⟨f,0,default,false⟩) := by
  induction cs using reverseRecOn with
  | nil => exact ⟨rfl,by simp,by simp,by simp,by simp,by simp⟩
  | append_singleton cs c ih =>
    rw [map_append,nodup_append] at distinct
    obtain ⟨distinct,_,apart⟩ := distinct
    have fresh d (mem : d ∈ cs) : id d ≠ id c := apart _ (mem_map_of_mem mem) _ (by simp)
    clear apart
    have ih := ih distinct
    rw [foldl_append,foldl_cons,foldl_nil]
    generalize cs.foldl (consider id position weight) ⟨f,0,default,false⟩ = pass at ih ⊢
    have unseen : pass.smooth (id c) = f (id c) := ih.others _ fun seen => by
      obtain ⟨d,mem,same⟩ := mem_map.mp seen
      exact fresh d mem same
    obtain ⟨total,added,set,best,greatest,others⟩ := ih
    refine ⟨?_,?_,fun _ _ => rfl,fun _ => ?_,?_,fun i absent => ?_⟩
    · simp [consider,total,SmoothRoundRobin.total]
    · simp only [consider,update_apply]
      grind
    · grind [consider]
    · simp only [consider,update_apply]
      grind
    · simp only [consider,update_apply]
      grind

section
variable (position weight) (distinct : (cs.map id).Nodup) (nonempty : cs ≠ [])
include distinct nonempty

theorem best_mem (f : Int → Int) : (smoothPick id position weight cs f).1 ∈ cs := by
  obtain ⟨c,mem⟩ := exists_mem_of_ne_nil _ nonempty
  have pass := passed position weight distinct f
  exact pass.best (pass.set c mem)

theorem pick_absent (f : Int → Int) {i : Int} (absent : i ∉ cs.map id) : (smoothPick id position weight cs f).2 i = 0 := by
  simp only [smoothPick]
  rw [if_neg absent,if_neg,sub_zero]
  exact fun same => absent (same ▸ mem_map_of_mem (best_mem position weight distinct nonempty f))

variable [DecidableEq α]

theorem smoothPick_rotation : Rotation cs.toFinset (fun c => normalizedWeight (weight c)) (fun (f : Int → Int) c => f (id c))
    (smoothPick id position weight cs) := by
  have best := best_mem position weight distinct nonempty
  refine ⟨by simpa using nonempty,fun _ _ => normalizedWeight_pos _,fun f => mem_toFinset.mpr (best f),?_,?_⟩ <;>
    intro f c here <;> rw [mem_toFinset] at here <;> have pass := passed position weight distinct f
  · rw [← pass.added c here,← pass.added _ (best f)]
    exact pass.greatest c here
  · have same : id c = id (smoothPick id position weight cs f).1 ↔ (smoothPick id position weight cs f).1 = c :=
      ⟨fun equal => (inj_on_of_nodup_map distinct here (best f) equal).symm,fun equal => by rw [equal]⟩
    change (if id c ∈ _ then _ else 0) - (if id c = id (smoothPick id position weight cs f).1 then _ else 0) = _
    rw [if_pos (mem_map_of_mem here),pass.added c here,pass.total,sum_toFinset _ distinct.of_map]
    simp only [same]
    rfl

theorem smoothPick_exact : Exact id weight (smoothPick id position weight cs) cs := by
  have rotation := smoothPick_rotation position weight distinct nonempty
  have sums (f : α → Int) := sum_toFinset f (distinct.of_map id)
  have whole : ∑ c ∈ cs.toFinset, normalizedWeight (weight c) = total weight cs := sums _
  have positive := rotation.total_pos
  have period : ((total weight cs).toNat : Int) = ∑ c ∈ cs.toFinset, normalizedWeight (weight c) := by omega
  have absent t i (absent : i ∉ cs.map id) : after (smoothPick id position weight cs) 0 t i = 0 := by
    cases t with
    | zero => rfl
    | succ t =>
      rw [after_succ]
      exact pick_absent position weight distinct nonempty _ absent
  have returns : after (smoothPick id position weight cs) 0 (total weight cs).toNat = 0 := by
    funext i
    by_cases here : i ∈ cs.map id
    · obtain ⟨c,mem,rfl⟩ := mem_map.mp here
      exact rotation.counter_period (fun _ _ => rfl) period c (mem_toFinset.mpr mem)
    · exact absent _ i here
  refine ⟨fun t => ?_,absent,fun t i => ?_,fun t => ?_,fun t c mem => ?_⟩
  · exact (sums _).symm.trans (rotation.after_balanced (fun _ _ => rfl) t).1
  · by_cases here : i ∈ cs.map id
    · obtain ⟨c,mem,rfl⟩ := mem_map.mp here
      exact whole ▸ (rotation.after_balanced (fun _ _ => rfl) t).2 c (mem_toFinset.mpr mem)
    · rw [absent t i here]
      omega
  · induction t with
    | zero => rw [zero_mul]; rfl
    | succ t ih =>
      rw [add_mul,one_mul,after_add,returns,ih]
  · refine rotation.count_window period ?_ (mem_toFinset.mpr mem)
    rw [after_add,returns]

end

/-- Every window of as many picks as the total weight chooses each candidate as often as its weight says. -/
theorem smooth_round_robin_exact :
    (∀ candidates : List BackendAgentCandidate, candidates ≠ [] → (candidates.map (·.agentID)).Nodup →
      Exact (·.agentID) (·.weight) (weightedRoundRobin candidates) candidates) ∧
    ∀ candidates : List RouteTargetCandidate, candidates ≠ [] → (candidates.map (·.targetID)).Nodup →
      Exact (·.targetID) (·.weight) (weightedTargetRoundRobin candidates) candidates :=
  ⟨fun _ nonempty distinct => smoothPick_exact _ _ distinct nonempty,
    fun _ nonempty distinct => smoothPick_exact _ _ distinct nonempty⟩

theorem smooth_round_robin_exact_pair : Exact (·.agentID) (·.weight) (weightedRoundRobin [⟨1,0,5⟩,⟨2,1,0⟩]) [⟨1,0,5⟩,⟨2,1,0⟩] ∧
    Exact (·.targetID) (·.weight) (weightedTargetRoundRobin [⟨1,0,2000⟩]) [⟨1,0,2000⟩] :=
  ⟨smooth_round_robin_exact.1 _ (by simp) (by decide),smooth_round_robin_exact.2 _ (by simp) (by decide)⟩

end P2pstream.SmoothRoundRobin
