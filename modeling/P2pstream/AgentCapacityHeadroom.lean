import P2pstream.AdaptiveAdmission
import P2pstream.AgentCapacityRuns

/-! Admission and the sampled headroom on the agent: what is charged after an admission fits in the
headroom of the sample it consulted, unless the sample reserved more than its headroom and some of
it was released since.
-/
namespace P2pstream.AgentCapacityHeadroom
open Library Kernel.AdaptiveMemory Kernel.AgentCapacity Option List Int Transitions
open AdaptiveAdmission AgentCapacitySteps AgentCapacityRuns

variable {r r' : Runtime} {s next : System} {input : Input} {sample : Sample} {events : List Event}

def charged (r : Runtime) (charge : Int) : Int := (r.inUse + r.controlReservedSlots) * charge + r.windowBytes + r.sessionBytes

/-- What an admission leaves behind fits in the headroom of the sample it consulted. -/
def WithinHeadroom : Event → Prop
  | .stream (some resource) left => charged left resource.streamChargeByte ≤ resource.headroomToHardByte
  | .session (some resource) left => charged left resource.streamChargeByte ≤ resource.headroomToHardByte
  | .receive bytes (some resource) left =>
    0 < bytes → charged left resource.streamChargeByte ≤ resource.headroomToHardByte
  | _ => True

/-- A complete sample: it allows no more than its headroom or what was running when it was taken. -/
structure Taken (s : Snapshot) : Prop where
  measured : Measured s
  reserved : 0 ≤ s.reservedStreamByte
  limit : s.memoryLimit * s.streamChargeByte ≤ max s.headroomToHardByte s.reservedStreamByte

/-- A controller whose charges stay in the `int64` range, with a complete sample if it accepts work. -/
structure Reported (c : Controller) : Prop where
  small : maxAdaptiveConcurrentStreamsLimit * c.config.estimatedBytesPerAdmission ≤ maxInt64
  taken : c.snapshot.sampledAt.isSome = true → c.snapshot.rejectNew = false → Taken c.snapshot

variable {resource : Snapshot}

theorem snapshotAt_taken {c c' : Controller} (reported : Reported c) {inUse : Int} {force : Bool}
    (ran : c.snapshotAt sample maxAdaptiveConcurrentStreamsLimit inUse force = (c',resource)) :
    Reported c' ∧ (resource.rejectNew = false → Taken resource ∧
      ((resource = c.snapshot ∧ cached c sample.now maxAdaptiveConcurrentStreamsLimit) ∨
        (0 ≤ inUse → resource.reservedStreamByte ≤ inUse * resource.streamChargeByte))) := by
  obtain ⟨same,kinds⟩ := snapshotAt_cases ran
  have config : c'.config = c.config := by
    have left : c' = _ := (congrArg Prod.fst ran).symm
    rw [left]
    unfold Controller.snapshotAt
    dsimp only
    split
    · rfl
    · split <;> rfl
  have taken (accepting : resource.rejectNew = false) : Taken resource ∧
      ((resource = c.snapshot ∧ cached c sample.now maxAdaptiveConcurrentStreamsLimit) ∨
        (0 ≤ inUse → resource.reservedStreamByte ≤ inUse * resource.streamChargeByte)) := by
    rcases kinds with ⟨rfl,kept⟩ | ⟨_,_,_,read,rfl⟩ | refusing
    · exact ⟨reported.taken (cached_sampled kept) accepting,.inl ⟨rfl,kept⟩⟩
    · have measured := freshSnapshot_measured c sample (max 1 maxAdaptiveConcurrentStreamsLimit)
        (min (max 0 inUse) (max 1 maxAdaptiveConcurrentStreamsLimit)) read
      have charge : 0 ≤ c.config.estimatedBytesPerAdmission := measured.charge.le
      have large : (max 1 maxAdaptiveConcurrentStreamsLimit : Int) = maxAdaptiveConcurrentStreamsLimit := by decide
      rw [large] at accepting measured ⊢
      have counted : 0 ≤ min (max 0 inUse) maxAdaptiveConcurrentStreamsLimit ∧
          min (max 0 inUse) maxAdaptiveConcurrentStreamsLimit ≤ maxAdaptiveConcurrentStreamsLimit := by
        omega
      obtain ⟨reserves,limit⟩ := fresh_limit counted.1
        ((Int.mul_le_mul_of_nonneg_right counted.2 charge).trans reported.small) accepting
      refine ⟨⟨measured,?_,limit⟩,.inr fun _ => ?_⟩
      · rw [reserves]
        exact Int.mul_nonneg counted.1 measured.charge.le
      · rw [reserves]
        exact Int.mul_le_mul_of_nonneg_right (by omega) measured.charge.le
    · exact absurd (refusing.symm.trans accepting) (by simp)
  refine ⟨⟨config ▸ reported.small,fun _ accepting => ?_⟩,taken⟩
  rw [same] at accepting ⊢
  exact (taken accepting).1

/-- The cached sample an admission would consult reserves no more than its headroom, or what it
reserved is still charged. -/
def reservedStillCharged (s : System) (input : Input) : Bool := match consulted input,s.runtime.controller with
  | some sample,some c =>
    !cached c sample.now maxAdaptiveConcurrentStreamsLimit || c.snapshot.rejectNew ||
      decide (c.snapshot.reservedStreamByte ≤ c.snapshot.headroomToHardByte) ||
      decide (c.snapshot.reservedStreamByte ≤ s.runtime.chargedAdmissions * c.snapshot.streamChargeByte)
  | _,_ => true

/-- Charges of a run that has sampled: the ledger is sound and the controller reports its samples. -/
structure Metered (s : System) : Prop where
  sound : Sound s
  reported : ∀ c, s.runtime.controller = some c → Reported c

theorem reported_samples (reported : ∀ c, r.controller = some c → Reported c) (samples : Samples r r') (c : Controller)
    (present : r'.controller = some c) : Reported c := by
  rcases samples with same | ⟨before,_,_,_,known,sampled⟩
  · exact reported c (same ▸ present)
  · rw [sampled] at present
    cases present
    exact (snapshotAt_taken (reported before known) rfl).1

theorem consulted_current (metered : Metered s) (consults : consulted input = some sample)
    (met : reservedStillCharged s input) (looked : s.runtime.sample sample false = (r,some resource))
    (accepting : resource.rejectNew = false) :
    Taken resource ∧ (resource.headroomToHardByte < resource.reservedStreamByte →
      resource.reservedStreamByte ≤ s.runtime.chargedAdmissions * resource.streamChargeByte) := by
  have counts := metered.sound.nonNegative
  have nonneg : 0 ≤ s.runtime.chargedAdmissions := add_nonneg counts.inUse counts.controlReservedSlots
  unfold Runtime.sample at looked
  split at looked
  · cases (Prod.mk.inj looked).2
  · rename_i c present
    cases ran : c.snapshotAt sample maxAdaptiveConcurrentStreamsLimit s.runtime.chargedAdmissions false with
    | mk =>
      rw [ran] at looked
      obtain rfl := some.inj (Prod.mk.inj looked).2
      obtain ⟨taken,⟨rfl,kept⟩ | fresh⟩ := (snapshotAt_taken (metered.reported c present) ran).2 accepting
      · refine ⟨taken,fun excess => ?_⟩
        simp only [reservedStillCharged,consults,present,kept,accepting,Bool.not_true,Bool.false_or,Bool.or_eq_true,
          decide_eq_true_eq] at met
        omega
      · exact ⟨taken,fun _ => fresh nonneg⟩

theorem charged_charge (r : Runtime) (owner : Owner) (bytes charge : Int) :
    charged (r.charge owner bytes) charge = charged r charge + bytes := by
  cases owner <;> simp only [charged,Runtime.charge] <;> omega

theorem admission_within (metered : Metered s) (consults : consulted input = some sample)
    (met : reservedStillCharged s input) {resource : Option Snapshot}
    (looked : s.runtime.sample sample false = (r,resource)) (admission : Admission r resource events) :
    ∀ event ∈ events, WithinHeadroom event := by
  obtain ⟨_,same⟩ := sample_same looked
  have counts := metered.sound.nonNegative
  have inUse : 0 ≤ r.inUse := same ▸ counts.inUse
  have slots : 0 ≤ r.controlReservedSlots := same ▸ counts.controlReservedSlots
  have window : 0 ≤ r.windowBytes := same ▸ counts.booked .window
  have session : 0 ≤ r.sessionBytes := same ▸ counts.booked .session
  have before : s.runtime.chargedAdmissions = r.inUse + r.controlReservedSlots := by rw [same]; rfl
  cases resource with
  | none =>
    cases admission with
    | refused => simp
    | stream | session | receive => simp [WithinHeadroom]
  | some resource =>
    have fits {after external : Int} (accepting : resource.rejectNew = false) (nonneg : 0 ≤ after) (bytes : 0 ≤ external)
        (allowed : after ≤ resource.admissionLimitWithExternal external 0)
        (adds : (r.inUse + r.controlReservedSlots) * resource.streamChargeByte <
          after * resource.streamChargeByte + external) :
        after * resource.streamChargeByte + external ≤ resource.headroomToHardByte := by
      obtain ⟨taken,current⟩ := consulted_current metered consults met looked accepting
      rw [before] at current
      have room : 0 ≤ max resource.headroomToHardByte resource.reservedStreamByte := le_max_of_le_right taken.reserved
      have total := limit_memory taken.measured.charge room taken.limit bytes nonneg allowed
      -- What the sample reserved beyond its headroom is still charged.
      by_cases excess : resource.headroomToHardByte < resource.reservedStreamByte
      · omega
      · omega
    have charge (accepting : resource.rejectNew = false) : 0 < resource.streamChargeByte :=
      (consulted_current metered consults met looked accepting).1.measured.charge
    cases admission with
    | refused => simp
    | stream admitted =>
      obtain ⟨accepting,limit⟩ := admitted resource rfl
      have positive := charge accepting
      have grown := add_mul (r.inUse + r.controlReservedSlots) 1 resource.streamChargeByte
      have total := @fits (r.inUse + r.controlReservedSlots + 1) (r.windowBytes + r.sessionBytes) accepting (by omega)
        (by omega) (by omega) (by omega)
      simp only [mem_singleton,forall_eq,WithinHeadroom,charged]
      rw [add_right_comm r.inUse]
      omega
    | @session bytes more nonneg positive admitted =>
      obtain ⟨accepting,limit⟩ := admitted resource rfl
      have unit := charge accepting
      have added : 0 < more * resource.streamChargeByte := Int.mul_pos (by omega) unit
      have grown := add_mul (r.inUse + r.controlReservedSlots) more resource.streamChargeByte
      have total := @fits (r.inUse + r.controlReservedSlots + more) (r.windowBytes + r.sessionBytes + bytes) accepting
        (by omega) (by omega) limit (by omega)
      simp only [mem_singleton,forall_eq,WithinHeadroom,charged]
      rw [← add_assoc r.inUse]
      omega
    | @receive owner bytes nonneg admitted =>
      obtain ⟨accepting,limit⟩ := admitted resource rfl
      simp only [mem_singleton,forall_eq,WithinHeadroom,charged_charge]
      intro _
      have total := @fits (r.inUse + r.controlReservedSlots) (r.windowBytes + r.sessionBytes + bytes) accepting (by omega)
        (by omega) (by simpa [Runtime.chargedAdmissions] using limit) (by omega)
      unfold charged
      omega

theorem metered_step (metered : Metered s) (met : reservedStillCharged s input)
    (taken : s.step input = some (next,events)) : Metered next ∧ ∀ event ∈ events, WithinHeadroom event := by
  have sound := sound_step metered.sound taken
  rcases (step_outcome taken).admission with ⟨_,_,_,consults,looked,same,admission⟩ | ⟨rfl,samples⟩
  · refine ⟨⟨sound,fun c present => ?_⟩,admission_within metered consults met looked admission⟩
    exact reported_samples metered.reported (samples_of_sample looked) c (same ▸ present)
  · exact ⟨⟨sound,reported_samples metered.reported samples⟩,by simp⟩

/-- Right after every admission of a run in which what a cached sample reserved beyond its headroom
is still charged at each admission, what is charged fits in the headroom of the sample consulted. -/
theorem agent_headroom_kept (maximum : Int) (controller : Option Controller) (fdSampler : Bool) (inputs : List Input)
    (s : System) (events : List Event)
    (new : ∀ c, controller = some c → c.snapshot.sampledAt = none)
    (small : ∀ c, controller = some c → maxAdaptiveConcurrentStreamsLimit * c.config.estimatedBytesPerAdmission ≤ maxInt64)
    (current : Transitions.Meets System.step (fun s input => reservedStillCharged s input = true)
      (.initial (.new maximum true controller fdSampler)) inputs)
    (reached : run System.step (.initial (.new maximum true controller fdSampler)) inputs = some (s,events)) :
    ∀ event ∈ events, WithinHeadroom event := by
  have start : Metered (.initial (.new maximum true controller fdSampler)) := by
    refine ⟨sound_initial maximum true controller fdSampler,fun c present => ?_⟩
    cases controller with
    | none =>
      cases present
      have bounded : maxAdaptiveConcurrentStreamsLimit * defaultAdaptiveMemoryConfig.estimatedBytesPerAdmission ≤
          maxInt64 := by decide
      exact ⟨bounded,nofun⟩
    | some given =>
      obtain rfl := some.inj present
      refine ⟨small given rfl,fun sampled => ?_⟩
      rw [new given rfl] at sampled
      exact nomatch sampled
  exact (run_invariant (fun _ _ _ _ metered met taken => metered_step metered met taken) start current
    reached).2

/-- The run of the mixed session admits two streams, a session and two receive reservations. -/
theorem agent_headroom_kept_mixed :
    ∃ s events, run System.step (.initial (.new 64 true none true)) mixedInputs = some (s,events) ∧
      events.length = 5 ∧ ∀ event ∈ events, WithinHeadroom event := by
  have current : Transitions.Meets System.step (fun s input => reservedStillCharged s input)
      (.initial (.new 64 true none true)) mixedInputs := by
    apply meets_of_checks (fun _ _ checked => checked)
    decide +kernel
  have counted : (run System.step (.initial (.new 64 true none true)) mixedInputs).map
      (fun outcome => outcome.2.length) = some 5 := by decide +kernel
  obtain ⟨⟨s,events⟩,reached,five⟩ := map_eq_some_iff.mp counted
  refine ⟨s,events,reached,five,?_⟩
  exact agent_headroom_kept 64 none true mixedInputs s events (fun _ never => (nomatch never))
    (fun _ never => (nomatch never)) current reached

def busySample (now used : Int) : Sample where
  now
  usages := .ok [⟨used,9000000,sample_memory⟩]
  descriptors := .ok ⟨10,1000,sample_descriptors⟩
  percent := fun used limit => used * 100 / limit

/-- Four streams run when a sample leaves room for two; one of them ends. -/
def releasedInputs : List Input :=
  [.acquire (busySample 0 0),.acquire (busySample 1 0),.acquire (busySample 2 0),.acquire (busySample 3 0),
    .snapshot false (busySample 200000000 5000000),.release 0 (busySample 200000001 5000000) false,
    .acquire (busySample 200000002 5000000)]

/-- Whether an admission left more charged than the headroom it consulted. -/
def overcommits : Event → Bool
  | .stream (some resource) left => resource.headroomToHardByte < charged left resource.streamChargeByte
  | _ => false

/-- The stream that was counted in the cached sample is admitted once more after its release. -/
theorem released_stream_spent_again :
    ∃ s events, run System.step (.initial (.new 64 true none true)) releasedInputs = some (s,events) ∧
      ∃ event ∈ events, ¬ WithinHeadroom event := by
  have counted : (run System.step (.initial (.new 64 true none true)) releasedInputs).map
      (fun outcome => outcome.2.any overcommits) = some true := by decide +kernel
  obtain ⟨⟨s,events⟩,reached,found⟩ := map_eq_some_iff.mp counted
  obtain ⟨event,mem,excess⟩ := any_eq_true.mp found
  refine ⟨s,events,reached,event,mem,fun within => ?_⟩
  cases event with
  | stream resource left =>
    cases resource with
    | none => cases excess
    | some resource =>
      have exceeds : resource.headroomToHardByte < charged left resource.streamChargeByte := of_decide_eq_true excess
      exact absurd within (not_le.mpr exceeds)
  | session | receive => cases excess

end P2pstream.AgentCapacityHeadroom
