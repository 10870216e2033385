import P2pstream.AgentUpdateEvidence

/-! From the moment a privileged command is signed, an assignment is fenced until its
success or its recovery is proved, unless local time ahead of UTC ends it earlier.
-/
namespace P2pstream.AgentUpdateRetention
open Library Kernel.AgentUpdates Semantics.AgentUpdates System Transitions List
open AgentUpdateSteps AgentUpdatePhases AgentUpdateInvariant AgentUpdateEvidence

variable {p : Primitives} {s next : System} {input : Input} {past events : List Event} {id : Nat} {row row' : Assignment}

theorem armed_append (armed : Armed (past ++ events) id) :
    (∃ event ∈ events, arms id event) ∨ (Armed past id ∧ ∀ event ∈ events, ¬ releases id event) := by
  obtain ⟨before,event,after,split,arming,held⟩ := armed
  rcases append_eq_append_iff.mp split with ⟨middle,rfl,rfl⟩ | ⟨middle,rfl,rest⟩
  · exact .inl ⟨event,by simp,arming⟩
  · cases middle with
    | nil =>
      obtain rfl : event :: after = events := by simpa using rest
      exact .inl ⟨event,by simp,arming⟩
    | cons first middle =>
      obtain ⟨rfl,rfl⟩ : event = first ∧ after = middle ++ events := by simpa using rest
      refine .inr ⟨⟨before,event,middle,rfl,arming,fun later mem => held later ?_⟩,fun later mem => held later ?_⟩
      · exact mem_append_left _ mem
      · exact mem_append_right _ mem

structure Retained (p : Primitives) (past : List Event) (s : System) : Prop where
  recorded : Recorded p past s
  fenced : ∀ id, Armed past id → ∃ row, s.assignments.lookup id = some row ∧ Fenced row

theorem Retained.step (retained : Retained p past s) (ok : step p s input = some (next,events)) :
    Retained p (past ++ events) next := by
  have consistent := retained.recorded.consistent
  have change := (consistent.outcome ok).change
  have kept {key : Nat} {row : Assignment} (stored : s.assignments.lookup key = some row) :=
    change_kept consistent.keyed (consistent.bounded key row stored).1 change stored
  refine ⟨retained.recorded.step ok,fun id armed => ?_⟩
  rcases armed_append armed with ⟨event,shown,arming⟩ | ⟨before,held⟩
  · have stored : s.assignments.lookup (subject event).id = some (subject event) := by
      cases change with
      | one _ _ _ _ _ _ stored _ step =>
        rw [step_subject step event shown]
        exact stored
      | _ => simp at shown
    have key : (subject event).id = id := by
      cases event with
      | authorized => exact arming
      | _ => exact arming.elim
    rw [key] at stored
    obtain ⟨row',found,moved⟩ := kept stored
    refine ⟨row',found,moved.armed (consistent.phases _ _ stored) ⟨event,shown,?_⟩⟩
    rw [key]
    exact arming
  · obtain ⟨row,stored,fenced⟩ := retained.fenced id before
    obtain ⟨row',found,moved⟩ := kept stored
    refine ⟨row',found,moved.fenced fenced ?_⟩
    rw [consistent.keyed id row stored]
    exact held

theorem retained_initial : Retained p [] initial := by
  refine ⟨recorded_initial,fun id armed => ?_⟩
  obtain ⟨_,_,_,split,_⟩ := armed
  simp at split

theorem released (recorded : Recorded p past s) (zone : NotAhead p s) (change : Change p s input next events) {now : Int} :
    (.succeeded row now ∈ events → next.assignments.lookup row.id = some (row.completed now) ∧ MaySucceed p past s row now) ∧
    (.recovered row now ∈ events → next.assignments.lookup row.id = some (row.recovered now) ∧ MayRecover p past s row) := by
  cases change with
  | one _ _ other _ _ _ stored _ step table =>
    constructor
    · intro shown
      obtain rfl : row = other := step_subject step _ shown
      cases step with
      | succeeded _ time _ joined succeeds =>
        obtain rfl : now = time := by simpa using shown
        exact ⟨by rw [table]; exact AList.lookup_insert _,recorded.success stored zone joined succeeds⟩
      | reported => rcases mem_reportEvents shown with ⟨_,_,same⟩ | same <;> cases same
      | _ => simp at shown
    · intro shown
      obtain rfl : row = other := step_subject step _ shown
      cases step with
      | recovered _ time _ _ recovers =>
        obtain rfl : now = time := by simpa using shown
        exact ⟨by rw [table]; exact AList.lookup_insert _,recorded.recovery stored zone recovers⟩
      | reported => rcases mem_reportEvents shown with ⟨_,_,same⟩ | same <;> cases same
      | _ => simp at shown
  | _ => simp

/-- In every run, an assignment with a signed privileged command stays cordoned until it
succeeds or its rollback recovers: while local time is not ahead of UTC, on full evidence and
over a later fresh tunnel. -/
theorem cordon_retained (p : Primitives) (inputs : List Input) (s : System) (past : List Event)
    (reached : run (step p) initial inputs = some (s,past)) :
    (∀ id, Armed past id → ∃ row, s.assignments.lookup id = some row ∧ row.cordoned = true) ∧
    (NotAhead p s → ∀ input next events, step p s input = some (next,events) → ∀ row now, (.succeeded row now ∈ events →
        next.assignments.lookup row.id = some (row.completed now) ∧ MaySucceed p past s row now) ∧
      (.recovered row now ∈ events → next.assignments.lookup row.id = some (row.recovered now) ∧ MayRecover p past s row)) := by
  have kept : Retained p ([] ++ past) s :=
    run_history (fun _ _ _ _ _ retained _ ok => retained.step ok) retained_initial
      (meets_true _ _) reached
  constructor
  · intro id armed
    obtain ⟨row,stored,fenced⟩ := kept.fenced id armed
    exact ⟨row,stored,fenced.cordoned⟩
  · intro zone _ _ _ ok _ _
    exact released kept.recorded zone (kept.recorded.consistent.outcome ok).change

def olderReceipt : SignedReceipt where
  value := ⟨"a",1,1,2,.rollback,2,"digest",[8],"authority",1,"digest",2,0,.release,"older","v1","c1",1,1,"linux",
    "amd64","agent",9,"first"⟩
  canonicalPayload := [2]
  signature := replicate 64 0

def olderReport (counter : Int) (state : ReportState) (receipt : Option SignedReceipt) : Report :=
  { exampleReport 1 counter state receipt with
    generation := 2, manifestSha256 := "older", binarySha256 := "first", runningVersion := "v1", runningCommit := "c1" }

/-- An activation is cancelled and rolled back. -/
def exampleRolledBack : List Input := exampleProving ++ [.changeCampaign 1 1 .cancel 9,
    .ensureAuthorization 1 1 2 .rollback [8] 9,.report (olderReport 4 .rolledBack (some olderReceipt)) 10]

theorem cordon_retained_recovered : ∃ s past row next, run (step trusting) initial
        (exampleRolledBack ++ [.connect 1 ⟨11,⟨"v1","c1"⟩⟩,.freshTunnel 1]) = some (s,past) ∧ NotAhead trusting s ∧
      step trusting s (.reconcile 1 12) = some (next,[.recovered row 12]) ∧ MayRecover trusting past s row := by
  have zone (s : System) : NotAhead trusting s := fun _ _ _ => le_refl _
  obtain ⟨_,recovers⟩ := (cordon_retained trusting (exampleRolledBack ++ [.connect 1 ⟨11,⟨"v1","c1"⟩⟩,.freshTunnel 1]) _ _
    rfl).2 (zone _) (.reconcile 1 12) _ _ rfl _ 12
  exact ⟨_,_,_,_,rfl,zone _,rfl,(recovers (.head _)).2⟩

/-- The rollback recovers over a tunnel that connected before it was reported. -/
theorem older_tunnel_recovers : ∃ s past next row, run (step eastern) initial
      (exampleRolledBack ++ [.connect 1 ⟨8,⟨"v1","c1"⟩⟩,.freshTunnel 1]) = some (s,past) ∧
    step eastern s (.reconcile 1 12) = some (next,[.recovered row 12]) ∧ row.cordoned = true ∧
      (next.assignments.lookup 1).map (·.cordoned) = some false ∧ ¬ MayRecover eastern past s row := by
  refine ⟨_,_,_,_,rfl,rfl,rfl,rfl,?_⟩
  rintro ⟨_,conn,_,_,_,_,_,_,completion,tunnel,after⟩
  cases completion
  rw [← Option.some.inj tunnel] at after
  exact absurd after (by decide)

/-- In every run an agent has at most one unfinished assignment and a campaign holds it once. Rows stay
under their key, and a finished one is taken up again by a retry alone. -/
theorem assignment_lifecycle (inputs : List Input) (reached : run (step p) initial inputs = some (s,past)) : Consistent s ∧
      ∀ input next events, step p s input = some (next,events) → ∀ id row, s.assignments.lookup id = some row →
        ∃ row', next.assignments.lookup id = some row' ∧ SameKey row row' ∧ (row.active = false → row'.active = true →
          ∃ campaign kind now, row.retryKind campaign = some kind ∧ row' = row.retried now kind) := by
  have consistent : Consistent s := run_kept (fun _ _ _ _ => Consistent.step) consistent_initial reached
  refine ⟨consistent,fun input next events ok id row stored => ?_⟩
  have phase := consistent.phases id row stored
  obtain ⟨row',found,moved⟩ := change_kept consistent.keyed (consistent.bounded id row stored).1
    (consistent.outcome ok).change stored
  refine ⟨row',found,moved.key,fun finished active => ?_⟩
  cases moved with
  | stays => cases finished.symm.trans active
  | step _ _ _ step => cases finished.symm.trans (step_active phase step)
  | changed change => cases finished.symm.trans (change_active phase change active)
  | retried campaign kind now known => exact ⟨campaign,kind,now,known,rfl⟩

theorem assignment_lifecycle_authorized : ∃ s past, run (step trusting) initial exampleAuthorized = some (s,past) ∧ Consistent s :=
  ⟨_,_,rfl,(assignment_lifecycle exampleAuthorized (p := trusting) rfl).1⟩

end P2pstream.AgentUpdateRetention
