import P2pstream.AdaptiveAdmission
import P2pstream.StreamCapacitySteps

/-! The snapshot a manager publishes is covered by its headroom, and the outstanding external
reservations add up to what the manager charges.
-/
namespace P2pstream.StreamCapacityResources
open Kernel.AdaptiveMemory List
open Kernel.StreamCapacity Kernel.StreamCapacity.Manager Semantics.StreamCapacity
open StreamCapacitySteps AdaptiveAdmission

theorem published_covered (m : Manager) {next : Snapshot} (measured : next.rejectNew = false → Measured next)
    (accepting : (m.publishedSnapshot next).rejectNew = false) : Covered (m.publishedSnapshot next) := by
  have same : (m.publishedSnapshot next).rejectNew = next.rejectNew := by
    unfold Manager.publishedSnapshot
    split <;> rfl
  rw [same] at accepting
  have facts := measured accepting
  have clamped : next.usage.valid ∧ next.streamChargeByte > 0 ∧ ¬ next.rejectNew :=
    ⟨facts.usage,facts.charge,by simp [accepting]⟩
  unfold Manager.publishedSnapshot
  simp only [if_pos clamped]
  refine ⟨{ facts with },?_,?_,?_⟩
  · simp only
    omega
  · simp only
    omega
  · intro measuredFD charged
    simp only [gt_iff_lt] at measuredFD charged ⊢
    omega

variable {left : Int} {m : Manager} {rs : List Reservation}

theorem saturatingAdd_exact {right : Int} (nonneg : 0 ≤ right) (fits : left + right ≤ maxInt64) :
    saturatingAddInt64 left right = left + right := by
  unfold saturatingAddInt64
  split
  · omega
  · rw [if_neg (by omega)]

theorem saturatingAdd_small {right : Int} (nonneg : 0 ≤ right) (small : saturatingAddInt64 left right < maxInt64) :
    left + right ≤ maxInt64 := by
  unfold saturatingAddInt64 at small
  split at small
  · omega
  · split at small
    · omega
    · omega

theorem saturatingAdd_nonneg (right : Int) (old : 0 ≤ left) : 0 ≤ saturatingAddInt64 left right := by
  have large : 0 < maxInt64 := by decide
  unfold saturatingAddInt64
  split
  · exact old
  · split <;> omega

theorem sum_owner_le (amount : Reservation → Int) (owner : Owner) (rs : List Reservation)
    (nonneg : ∀ r ∈ rs, 0 ≤ amount r) : ((rs.filter fun r => r.owner = owner).map amount).sum ≤ (rs.map amount).sum := by
  induction rs with
  | nil => exact Int.le_refl _
  | cons r _ ih =>
    have here := nonneg r (.head _)
    have rest := ih fun other mem => nonneg other (mem_cons_of_mem _ mem)
    rw [filter_cons]
    split <;> simp only [map_cons,sum_cons] <;> omega

theorem sum_owner_cons (amount : Reservation → Int) (owner : Owner) (r : Reservation) (rs : List Reservation) :
    (((r :: rs).filter fun r => r.owner = owner).map amount).sum =
      ((rs.filter fun r => r.owner = owner).map amount).sum + if owner = r.owner then amount r else 0 := by
  by_cases same : r.owner = owner
  · simp [same,Int.add_comm]
  · simp [same,Ne.symm same]

theorem externals_perm {others : List Reservation} (externals : Externals m rs) (perm : rs.Perm others) :
    Externals m others where
  __ := externals
  bytes := externals.bytes.trans (perm.map _).sum_eq
  fds := externals.fds.trans (perm.map _).sum_eq
  ownerBytes owner := (externals.ownerBytes owner).trans ((perm.filter _).map _).sum_eq
  ownerFDs owner := (externals.ownerFDs owner).trans ((perm.filter _).map _).sum_eq
  nonneg r mem := externals.nonneg r (perm.mem_iff.mpr mem)

theorem setOwner_sum {amounts : Owner → Int} {amount : Reservation → Int}
    (exact_ : ∀ owner, amounts owner = ((rs.filter fun r => r.owner = owner).map amount).sum) (r : Reservation)
    (value : Int) (step : value = amounts r.owner + amount r) (owner : Owner) :
    setOwner amounts r.owner value owner = (((r :: rs).filter fun r => r.owner = owner).map amount).sum := by
  rw [sum_owner_cons]
  unfold setOwner
  by_cases same : owner = r.owner
  · subst same
    simp [step,exact_]
  · simp [same,exact_]

theorem setOwner_unsum {amounts : Owner → Int} {amount : Reservation → Int} {r : Reservation}
    (exact_ : ∀ owner, amounts owner = (((r :: rs).filter fun r => r.owner = owner).map amount).sum) (value : Int)
    (step : value = amounts r.owner - amount r) (owner : Owner) :
    setOwner amounts r.owner value owner = ((rs.filter fun r => r.owner = owner).map amount).sum := by
  have total := exact_ owner
  rw [sum_owner_cons] at total
  unfold setOwner
  by_cases same : owner = r.owner
  · subst same
    simp only [if_true] at total ⊢
    omega
  · simp only [if_neg same] at total ⊢
    omega

theorem held_nonneg (amount : Reservation → Int) (rs : List Reservation) (nonneg : ∀ r ∈ rs, 0 ≤ amount r) :
    0 ≤ (rs.map amount).sum := by
  apply sum_nonneg
  simpa using nonneg

theorem externals_reserve (externals : Externals m rs) (r : Reservation) (bytes : 0 ≤ r.memoryBytes)
    (fds : 0 ≤ r.fileDescriptors) (bytesFit : m.adaptiveExternalBytes + r.memoryBytes ≤ maxInt64)
    (fdsFit : m.adaptiveExternalFDs + r.fileDescriptors ≤ maxInt64) : Externals (reservedManager m r) (r :: rs) := by
  have ownerBytes : m.adaptiveExternalBytesByOwner r.owner ≤ m.adaptiveExternalBytes := by
    rw [externals.ownerBytes,externals.bytes]
    exact sum_owner_le _ _ _ fun r mem => (externals.nonneg r mem).1
  have ownerFDs : m.adaptiveExternalFDsByOwner r.owner ≤ m.adaptiveExternalFDs := by
    rw [externals.ownerFDs,externals.fds]
    exact sum_owner_le _ _ _ fun r mem => (externals.nonneg r mem).2
  have totalBytes := saturatingAdd_exact bytes bytesFit
  have totalFDs := saturatingAdd_exact fds fdsFit
  refine ⟨?_,?_,?_,?_,?_,⟨?_,?_⟩,?_,?_⟩
  · have old := externals.bytes
    simp only [reservedManager,totalBytes,map_cons,sum_cons]
    omega
  · have old := externals.fds
    simp only [reservedManager,totalFDs,map_cons,sum_cons]
    omega
  · exact setOwner_sum externals.ownerBytes r _ (saturatingAdd_exact bytes (by omega))
  · exact setOwner_sum externals.ownerFDs r _ (saturatingAdd_exact fds (by omega))
  · intro other mem
    rcases mem_cons.mp mem with rfl | old
    · exact ⟨bytes,fds⟩
    · exact externals.nonneg other old
  · simp only [reservedManager,totalBytes]
    exact bytesFit
  · simp only [reservedManager,totalFDs]
    exact fdsFit
  · intro owner
    simp only [reservedManager,setOwner]
    split
    · exact saturatingAdd_nonneg _ (externals.counts _)
    · exact externals.counts owner
  · simp only [reservedManager]
    split
    · exact saturatingAdd_nonneg _ externals.legacy
    · exact externals.legacy

theorem externals_release {r : Reservation} (externals : Externals m (r :: rs)) : Externals (unreservedManager m r) rs := by
  obtain ⟨_,_⟩ := externals.nonneg r (.head _)
  have rest : ∀ other ∈ rs, 0 ≤ other.memoryBytes ∧ 0 ≤ other.fileDescriptors :=
    fun other mem => externals.nonneg other (mem_cons_of_mem _ mem)
  have totalBytes := externals.bytes
  have totalFDs := externals.fds
  rw [map_cons,sum_cons] at totalBytes totalFDs
  have bytesLeft := held_nonneg Reservation.memoryBytes rs fun other mem => (rest other mem).1
  have fdsLeft := held_nonneg Reservation.fileDescriptors rs fun other mem => (rest other mem).2
  have ownBytes := externals.ownerBytes r.owner
  have ownFDs := externals.ownerFDs r.owner
  unfold bytesOf at ownBytes
  unfold descriptorsOf at ownFDs
  rw [sum_owner_cons,if_pos rfl] at ownBytes ownFDs
  have ownBytesLeft := held_nonneg Reservation.memoryBytes (rs.filter fun other => other.owner = r.owner)
    fun other mem => (rest other (mem_filter.mp mem).1).1
  have ownFDsLeft := held_nonneg Reservation.fileDescriptors (rs.filter fun other => other.owner = r.owner)
    fun other mem => (rest other (mem_filter.mp mem).1).2
  have fits := externals.fits
  refine ⟨?_,?_,?_,?_,rest,⟨?_,?_⟩,?_,?_⟩
  · simp only [unreservedManager]
    omega
  · simp only [unreservedManager]
    omega
  · exact setOwner_unsum externals.ownerBytes _ (by omega)
  · exact setOwner_unsum externals.ownerFDs _ (by omega)
  · simp only [unreservedManager]
    omega
  · simp only [unreservedManager]
    omega
  · intro owner
    simp only [unreservedManager,setOwner]
    split
    · exact le_max_left ..
    · exact externals.counts owner
  · exact le_max_left ..

end P2pstream.StreamCapacityResources
