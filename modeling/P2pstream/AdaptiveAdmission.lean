import P2pstream.Library.Checks
import P2pstream.Kernel.AdaptiveMemory

/-! What a sample of the adaptive controller promises: whatever the admission limit of a snapshot
allows, streams and external owners together stay within its headroom.
-/
namespace P2pstream.AdaptiveAdmission
open Library Kernel.AdaptiveMemory Int List

structure Measured (s : Snapshot) : Prop where
  usage : s.usage.valid = true
  charge : 0 < s.streamChargeByte
  chargeFD : 0 ≤ s.streamChargeFD
  role : s.admissionRole ≠ .unspecified
  headroom : 0 ≤ s.headroomToHardByte ∧ s.headroomToHardByte < maxInt64
  descriptors : 0 < s.fdLimit → 0 ≤ s.fdHeadroomToHard ∧ s.fdHeadroomToHard < maxInt64

structure Covered (s : Snapshot) : Prop extends Measured s where
  memory : s.memoryAdmissionLimit ≤ s.headroomToHardByte / s.streamChargeByte
  joint : s.admissionLimit ≤ s.memoryAdmissionLimit ∧ s.admissionLimit ≤ s.fdAdmissionLimit
  fd : 0 < s.fdLimit → 0 < s.streamChargeFD → s.fdAdmissionLimit ≤ s.fdHeadroomToHard / s.streamChargeFD

theorem config_facts {c : Config} (accepted : c.validate = none) :
    c.hardLimitPercent ≤ 99 ∧ 0 < c.estimatedBytesPerAdmission ∧
      0 ≤ c.fileDescriptorsPerAdmission ∧ c.admissionRole ≠ .unspecified := by
  simp only [Config.validate,Checks.refuse_eq_none] at accepted
  unfold minimumAgentStreamAdmissionBytes minimumServerStreamAdmissionBytes at accepted
  obtain ⟨_,_,_,_,role,_,_,_,agent,server,_⟩ := accepted
  cases kind : c.admissionRole with
  | unspecified => simp [kind] at role
  | agentStream =>
    simp only [kind,true_and] at agent
    exact ⟨by omega,by omega,by omega,by simp⟩
  | serverStream =>
    simp only [kind,true_and] at server
    exact ⟨by omega,by omega,by omega,by simp⟩

variable {percent limit inUse maximum amount charge left n bytes fds : Int} {first : MemoryUsage}
  {rest : List MemoryUsage} {c : Controller} {fd : FileDescriptorUsage} {input : Sample} {s : Snapshot}

theorem percentageOf_lt {value : Int} (positive : 0 < value) (high : percent ≤ 99) :
    percentageOf value percent < value := by
  have whole : (value / 100) * percent ≤ (value / 100) * 99 := Int.mul_le_mul_of_nonneg_left high (by omega)
  have part : (value % 100) * percent / 100 ≤ (value % 100) * 99 / 100 :=
    Int.ediv_le_ediv (by omega) (Int.mul_le_mul_of_nonneg_left high (by omega))
  unfold percentageOf
  omega

theorem headroom_lt {usage : Int} (used : 0 ≤ usage) (positive : 0 < limit) (bound : limit ≤ maxInt64)
    (high : percent ≤ 99) :
    0 ≤ max 0 (percentageOf limit percent - usage) ∧ max 0 (percentageOf limit percent - usage) < maxInt64 := by
  have below := percentageOf_lt positive high
  omega

theorem tightest_facts (input : Sample) (valid : ∀ usage ∈ first :: rest, usage.valid) (high : percent ≤ 99) :
    (tightest input percent first rest).1.valid ∧ 0 ≤ (tightest input percent first rest).2.2 ∧
      (tightest input percent first rest).2.2 < maxInt64 := by
  have room (usage : MemoryUsage) (ok : usage.valid) := by
    simp only [MemoryUsage.valid,Bool.and_eq_true,decide_eq_true_eq] at ok
    exact headroom_lt ok.1 ok.2 usage.limit_le high
  -- The fold keeps a valid selection and a headroom that only shrinks.
  unfold tightest
  have here := room first (valid first (.head _))
  have start := valid first (.head _)
  rw [foldl_cons]
  dsimp only
  refine foldlRecOn (motive := fun result : MemoryUsage × ℚ × Int => result.1.valid ∧ 0 ≤ result.2.2 ∧ result.2.2 < maxInt64)
    rest _ ⟨?_,?_,?_⟩ ?_
  · split <;> exact start
  · dsimp only
    omega
  · dsimp only
    omega
  · rintro ⟨selected,highest,headroom⟩ ⟨ok,lower,upper⟩ usage mem
    dsimp only at ok lower upper ⊢
    refine ⟨?_,by omega,by omega⟩
    split
    · exact valid usage (mem_cons_of_mem _ mem)
    · exact ok

theorem descriptors_valid (ok : c.descriptorReading input = .ok fd) : 0 < fd.limit → fd.valid := by
  unfold Controller.descriptorReading at ok
  split at ok
  · split at ok
    · cases ok
    · split at ok
      · rename_i valid
        cases ok
        exact fun _ => valid
      · cases ok
  · cases ok
    intro positive
    exact absurd positive (by decide)

theorem readings_valid (ok : c.readings input = .ok (first,rest,fd)) :
    (∀ usage ∈ first :: rest, usage.valid) ∧ (0 < fd.limit → fd.valid) := by
  unfold Controller.readings at ok
  split at ok
  · cases ok
  · cases ok
  · rename_i usages descriptors _ reading
    split at ok
    · cases ok
    · rename_i clean
      have all : ∀ usage ∈ usages, usage.valid := by
        intro usage mem
        by_contra invalid
        exact clean (any_eq_true.mpr ⟨usage,mem,by simpa using invalid⟩)
      cases usages with
      | nil => cases ok
      | cons =>
        cases ok
        exact ⟨all,descriptors_valid reading⟩

theorem freshSnapshot_measured (c : Controller) (input : Sample) (maximum inUse : Int)
    (ok : c.readings input = .ok (first,rest,fd)) : Measured (c.freshSnapshot input maximum inUse first rest fd) := by
  obtain ⟨valid,described⟩ := readings_valid ok
  obtain ⟨hard,charge,descriptors,role⟩ := config_facts c.accepted
  obtain ⟨usage,lower,upper⟩ := tightest_facts input valid hard
  refine ⟨usage,charge,descriptors,role,⟨lower,upper⟩,?_⟩
  intro positive
  have limited : 0 < fd.limit := positive
  have known := described limited
  have facts := known
  simp only [FileDescriptorUsage.valid,Bool.and_eq_true,decide_eq_true_eq] at facts
  have bounds := headroom_lt facts.1 limited fd.limit_le hard
  simpa [Controller.freshSnapshot,known] using bounds

/-- A controller only remembers snapshots that its own sampling produced. -/
def Remembers (c : Controller) : Prop := c.snapshot.sampledAt.isSome = true → c.snapshot.rejectNew = false → Measured c.snapshot

/-- Whether the next call that is not forced answers with the remembered snapshot. -/
def cached (c : Controller) (now maximum : Int) : Bool :=
  c.snapshot.sampledAt.isSome && before now c.nextSampleAt && c.snapshot.maximum = max 1 maximum

/-- The snapshot a call returns is the one remembered from then on. It is the one remembered before,
a complete sample of the present, or it refuses new work. -/
theorem snapshotAt_cases {next : Controller} {force : Bool} (ok : c.snapshotAt input maximum inUse force = (next,s)) :
    next.snapshot = s ∧ ((s = c.snapshot ∧ cached c input.now maximum) ∨
      (∃ first rest fd, c.readings input = .ok (first,rest,fd) ∧
        s = c.freshSnapshot input (max 1 maximum) (min (max 0 inUse) (max 1 maximum)) first rest fd) ∨
      s.rejectNew) := by
  unfold Controller.snapshotAt at ok
  simp only at ok
  split at ok
  · rename_i same
    cases ok
    exact ⟨rfl,.inl ⟨rfl,by simp [cached,same]⟩⟩
  · split at ok
    · rename_i first rest fd read
      cases ok
      exact ⟨rfl,.inr (.inl ⟨first,rest,fd,read,rfl⟩)⟩
    · cases ok
      exact ⟨rfl,.inr (.inr rfl)⟩

theorem cached_sampled {now : Int} (same : cached c now maximum) : c.snapshot.sampledAt.isSome := by
  simp only [cached,Bool.and_eq_true] at same
  exact same.1.1

theorem snapshotAt_measured (remembers : Remembers c) (input : Sample) (maximum inUse : Int) (force : Bool) :
    Remembers (c.snapshotAt input maximum inUse force).1 ∧ ((c.snapshotAt input maximum inUse force).2.rejectNew = false →
        Measured (c.snapshotAt input maximum inUse force).2) := by
  cases ran : c.snapshotAt input maximum inUse force with
  | mk _ s =>
    obtain ⟨same,kinds⟩ := snapshotAt_cases ran
    have measured (accepting : s.rejectNew = false) : Measured s := by
      rcases kinds with ⟨rfl,kept⟩ | ⟨_,_,_,read,rfl⟩ | refusing
      · exact remembers (cached_sampled kept) accepting
      · exact freshSnapshot_measured c input _ _ read
      · rw [refusing] at accepting
        cases accepting
    refine ⟨fun _ accepting => ?_,measured⟩
    rw [same] at accepting ⊢
    exact measured accepting

theorem slotsFor_le_iff (positive : 0 < charge) (slots : Int) : slotsFor amount charge ≤ slots ↔ amount ≤ slots * charge := by
  have split := mul_ediv_add_emod amount charge
  have low := emod_nonneg amount (ne_of_gt positive)
  have high := emod_lt_of_pos amount positive
  unfold slotsFor
  generalize amount / charge = quotient at split ⊢
  generalize amount % charge = remainder at split low high ⊢
  constructor
  · intro enough
    by_cases exact_ : remainder = 0
    · have scaled := Int.mul_le_mul_of_nonneg_right (show quotient ≤ slots by simpa [exact_] using enough)
        (Int.le_of_lt positive)
      rw [mul_comm charge] at split
      omega
    · have scaled := Int.mul_le_mul_of_nonneg_right (show quotient + 1 ≤ slots by simpa [exact_] using enough)
        (Int.le_of_lt positive)
      rw [add_mul] at scaled
      rw [mul_comm charge] at split
      omega
  · intro _
    rw [mul_comm charge] at split
    by_cases exact_ : remainder = 0
    · have below : quotient * charge ≤ slots * charge := by omega
      simpa [exact_] using Int.le_of_mul_le_mul_right below positive
    · have below : quotient * charge < slots * charge := by omega
      have strict := Int.lt_of_mul_lt_mul_right below (Int.le_of_lt positive)
      omega

theorem withoutExternal_covered {headroom : Int} (positive : 0 < charge) (bound : limit * charge ≤ headroom)
    (rest : withoutExternal limit amount charge = some left) (allowed : n ≤ max 0 left) :
    n * charge + amount ≤ headroom := by
  unfold withoutExternal at rest
  split at rest
  · cases rest
  · rename_i fits
    cases rest
    have cover := (slotsFor_le_iff positive (slotsFor amount charge)).mp (le_refl _)
    have total : (n + slotsFor amount charge) * charge ≤ limit * charge :=
      Int.mul_le_mul_of_nonneg_right (by omega) (Int.le_of_lt positive)
    rw [add_mul] at total
    omega

theorem slots_covered {headroom : Int} (positive : 0 < charge) (room : 0 ≤ headroom)
    (bound : limit * charge ≤ headroom) (nonneg : 0 ≤ n) (allowed : n ≤ max 0 limit) : n * charge ≤ headroom := by
  by_cases zero : n = 0
  · simpa [zero] using room
  · have total : n * charge ≤ limit * charge := Int.mul_le_mul_of_nonneg_right (by omega) (Int.le_of_lt positive)
    omega

theorem limit_memory (charge : 0 < s.streamChargeByte) {room : Int} (positive : 0 ≤ room)
    (bound : s.memoryLimit * s.streamChargeByte ≤ room) (external : 0 ≤ bytes) (nonneg : 0 ≤ n)
    (allowed : n ≤ s.admissionLimitWithExternal bytes fds) : n * s.streamChargeByte + bytes ≤ room := by
  unfold Snapshot.admissionLimitWithExternal at allowed
  split at allowed
  · rename_i memory descriptors rest _
    have within : n ≤ max 0 memory := by
      simp only at allowed
      split at allowed <;> omega
    unfold Snapshot.memoryLeft at rest
    split at rest
    · exact withoutExternal_covered charge bound rest within
    · rename_i none
      cases rest
      have streams := slots_covered charge positive bound nonneg within
      omega
  · omega

theorem memoryLimit_le {bound : Int} (joint : s.admissionLimit ≤ bound)
    (memory : s.memoryAdmissionLimit ≤ bound) : s.memoryLimit ≤ bound := by
  unfold Snapshot.memoryLimit
  split
  · exact joint
  · exact memory

theorem memory_bound (covered : Covered s) : s.memoryLimit * s.streamChargeByte ≤ s.headroomToHardByte := by
  have below : s.memoryLimit ≤ s.memoryAdmissionLimit := memoryLimit_le covered.joint.1 (le_refl _)
  exact (Int.le_ediv_iff_mul_le covered.charge).mp (below.trans covered.memory)

theorem descriptors_covered (covered : Covered s) (measured : 0 < s.fdLimit) (external : 0 ≤ fds)
    (rest : s.descriptorsLeft fds = some left) (nonneg : 0 ≤ n) (allowed : n ≤ max 0 left) :
    n * s.streamChargeFD + fds ≤ s.fdHeadroomToHard := by
  have room := (covered.descriptors measured).1
  have charge : s.descriptorCharge = s.streamChargeFD := by simp [Snapshot.descriptorCharge,covered.role]
  have below : s.descriptorLimit ≤ s.fdAdmissionLimit := by
    unfold Snapshot.descriptorLimit
    split
    · exact covered.joint.2
    · exact le_refl _
  unfold Snapshot.descriptorsLeft at rest
  rw [charge] at rest
  by_cases uncharged : s.streamChargeFD = 0
  · rw [uncharged]
    split at rest
    · split at rest
      · cases rest
      · rename_i fits
        omega
    · omega
  · have positive : 0 < s.streamChargeFD := by
      have lower := covered.chargeFD
      omega
    have bound : s.descriptorLimit * s.streamChargeFD ≤ s.fdHeadroomToHard :=
      (Int.le_ediv_iff_mul_le positive).mp (below.trans (covered.fd measured positive))
    split at rest
    · exact withoutExternal_covered positive bound rest allowed
    · rename_i none
      cases rest
      have streams := slots_covered positive room bound nonneg allowed
      omega

theorem slotsFor_mono {larger : Int} (positive : 0 < charge) (more : amount ≤ larger) :
    slotsFor amount charge ≤ slotsFor larger charge :=
  (slotsFor_le_iff positive _).mpr (more.trans ((slotsFor_le_iff positive _).mp (le_refl _)))

theorem withoutExternal_antitone {larger : Int} (positive : 0 < charge) (more : amount ≤ larger)
    (rest : withoutExternal limit larger charge = some left) :
    ∃ before, withoutExternal limit amount charge = some before ∧ left ≤ before := by
  have slots := slotsFor_mono positive more
  unfold withoutExternal at rest ⊢
  split at rest
  · cases rest
  · cases rest
    exact ⟨_,if_neg (by omega),by omega⟩

theorem withoutExternal_le (positive : 0 < charge) (nonneg : 0 ≤ amount)
    (rest : withoutExternal limit amount charge = some left) : left ≤ limit := by
  have slots := slotsFor_mono positive nonneg
  have zero : slotsFor 0 charge = 0 := by simp [slotsFor]
  unfold withoutExternal at rest
  split at rest
  · cases rest
  · cases rest
    omega

theorem limit_antitone (covered : Covered s) {moreBytes moreFDs : Int} (growsBytes : bytes ≤ moreBytes)
    (growsFDs : fds ≤ moreFDs) :
    s.admissionLimitWithExternal moreBytes moreFDs ≤ s.admissionLimitWithExternal bytes fds := by
  have memory (left : Int) (rest : s.memoryLeft moreBytes = some left) :
      ∃ before, s.memoryLeft bytes = some before ∧ left ≤ before := by
    have charge := covered.charge
    unfold Snapshot.memoryLeft at rest ⊢
    split at rest
    · split
      · exact withoutExternal_antitone charge growsBytes rest
      · exact ⟨_,rfl,withoutExternal_le charge (by omega) rest⟩
    · rw [if_neg (by omega)]
      cases rest
      exact ⟨_,rfl,le_refl _⟩
  have descriptors (left : Int) (rest : s.descriptorsLeft moreFDs = some left) :
      ∃ before, s.descriptorsLeft fds = some before ∧ left ≤ before := by
    have charge : 0 ≤ s.descriptorCharge := by
      have nonneg := covered.chargeFD
      simpa [Snapshot.descriptorCharge,covered.role] using nonneg
    unfold Snapshot.descriptorsLeft at rest ⊢
    by_cases uncharged : s.descriptorCharge = 0
    · split at rest
      · split at rest
        · cases rest
        · cases rest
          split
          · exact ⟨_,if_neg (by omega),le_refl _⟩
          · exact ⟨_,rfl,le_refl _⟩
      · cases rest
        rw [if_neg (by omega)]
        exact ⟨_,rfl,le_refl _⟩
    · split at rest
      · split
        · exact withoutExternal_antitone (by omega) growsFDs rest
        · exact ⟨_,rfl,withoutExternal_le (by omega) (by omega) rest⟩
      · rw [if_neg (by omega)]
        cases rest
        exact ⟨_,rfl,le_refl _⟩
  have lowest : -1 ≤ s.admissionLimitWithExternal bytes fds := by
    unfold Snapshot.admissionLimitWithExternal
    split
    · simp only
      omega
    · exact le_refl _
  unfold Snapshot.admissionLimitWithExternal at lowest ⊢
  split
  · rename_i left leftFDs rest restFDs
    obtain ⟨_,same,_⟩ := memory left rest
    obtain ⟨_,sameFDs,_⟩ := descriptors leftFDs restFDs
    simp only [same,sameFDs]
    split <;> omega
  · exact lowest

theorem limit_covered (covered : Covered s) (externalBytes : 0 ≤ bytes) (externalFDs : 0 ≤ fds) (nonneg : 0 ≤ n)
    (allowed : n ≤ s.admissionLimitWithExternal bytes fds) :
    n * s.streamChargeByte + bytes ≤ s.headroomToHardByte ∧
      (0 < s.fdLimit → n * s.streamChargeFD + fds ≤ s.fdHeadroomToHard) := by
  refine ⟨limit_memory covered.charge covered.headroom.1 (memory_bound covered) externalBytes nonneg allowed,?_⟩
  intro measured
  unfold Snapshot.admissionLimitWithExternal at allowed
  split at allowed
  · rename_i memory descriptors _ rest
    refine descriptors_covered covered measured externalFDs rest nonneg ?_
    simp only at allowed
    split at allowed <;> omega
  · omega

theorem saturatingMultiply_exact {right : Int} (nonneg : 0 ≤ left) (positive : 0 < right)
    (fits : left * right ≤ maxInt64) : saturatingMultiply left right = left * right := by
  unfold saturatingMultiply
  have within := (Int.le_ediv_iff_mul_le positive).mpr fits
  split
  · have zero : left = 0 := by omega
    rw [zero,zero_mul]
  · rw [if_neg (by omega)]

theorem additional_limit (headroom : Int) (positive : 0 < charge) (nonneg : 0 ≤ inUse)
    (fits : inUse * charge ≤ maxInt64) :
    (inUse + additionalAdmissions headroom inUse charge) * charge ≤ max headroom (inUse * charge) := by
  unfold additionalAdmissions
  rw [saturatingMultiply_exact nonneg positive fits,add_mul]
  have rounded := Int.ediv_mul_le (max 0 (headroom - inUse * charge)) (ne_of_gt positive)
  omega

/-- A complete sample that admits new work reserves what was running, and allows no more than its
headroom or what was running. -/
theorem fresh_limit (nonneg : 0 ≤ inUse) (fits : inUse * c.config.estimatedBytesPerAdmission ≤ maxInt64)
    (accepting : (c.freshSnapshot input maximum inUse first rest fd).rejectNew = false) :
    let s := c.freshSnapshot input maximum inUse first rest fd
    s.reservedStreamByte = inUse * s.streamChargeByte ∧
      s.memoryLimit * s.streamChargeByte ≤ max s.headroomToHardByte s.reservedStreamByte := by
  obtain ⟨_,charge,_,_⟩ := config_facts c.accepted
  have reserved := saturatingMultiply_exact nonneg charge fits
  refine ⟨reserved,?_⟩
  generalize taken : c.freshSnapshot input maximum inUse first rest fd = s at accepting ⊢
  unfold Controller.freshSnapshot at taken
  subst taken
  have calm := of_decide_eq_false accepting
  have room := additional_limit (tightest input c.config.hardLimitPercent first rest).2.2 charge nonneg fits
  have more : 0 ≤ additionalAdmissions (tightest input c.config.hardLimitPercent first rest).2.2 inUse
      c.config.estimatedBytesPerAdmission := ediv_nonneg (le_max_left ..) (Int.le_of_lt charge)
  rw [← reserved] at room
  refine le_trans (Int.mul_le_mul_of_nonneg_right ?_ (Int.le_of_lt charge)) room
  have tighter {bound : Prop} [Decidable bound] (memory fds : Int) : (if bound then min memory fds else memory) ≤ memory := by
    split <;> omega
  apply memoryLimit_le
  · dsimp only
    rw [if_neg calm]
    refine Int.add_le_add_left ?_ inUse
    exact max_le more (le_trans (min_le_left _ _) (tighter _ _))
  · dsimp only
    rw [if_neg calm]
    exact Int.add_le_add_left (min_le_left _ _) inUse

end P2pstream.AdaptiveAdmission
